import Regimen.Protocol.Data

/-! The shape of what an editor tells about itself when it sets up the server. -/
namespace Regimen.Protocol
open Shape

/-! Common parts. -/

def dynamic : Field × Shape := may "dynamicRegistration" .truth

def dynamicOnly : Shape := .record "DynamicRegistrationClientCapabilities" [dynamic]

def knownValues (name : String) (item : Shape) : Shape := .record name [may "valueSet" (.list item)]

def tags : Field × Shape :=
  (.defaulted "tagSupport", .optional (.switch (.record "TagSupport" [need "valueSet" (.list signed)])))

def lazily (name : String) : Field × Shape :=
  may "resolveSupport" (.record name [need "properties" (.list .text)])

def refreshing (name : String) : Shape := .record name [may "refreshSupport" .truth]

/-! The workspace. -/

def workspaceEditing : Shape :=
  .record "WorkspaceEditClientCapabilities"
    [may "documentChanges" .truth,
     may "resourceOperations" (.list (.word ["create", "rename", "delete"])),
     may "failureHandling"
       (.word ["abort", "transactional", "textOnlyTransactional", "undo"]),
     may "normalizesLineEndings" .truth,
     may "changeAnnotationSupport"
       (.record "ChangeAnnotationWorkspaceEditClientCapabilities" [may "groupsOnLabel" .truth])]

def workspaceSymbols : Shape :=
  .record "WorkspaceSymbolClientCapabilities"
    [dynamic, may "symbolKind" (knownValues "SymbolKindCapability" signed), tags,
     lazily "WorkspaceSymbolResolveSupportCapability"]

def fileOperations : Shape :=
  .record "WorkspaceFileOperationsClientCapabilities"
    [dynamic, may "didCreate" .truth, may "willCreate" .truth, may "didRename" .truth,
     may "willRename" .truth, may "didDelete" .truth, may "willDelete" .truth]

def workspaceClient : Shape :=
  .record "WorkspaceClientCapabilities"
    [may "applyEdit" .truth, may "workspaceEdit" workspaceEditing,
     may "didChangeConfiguration" dynamicOnly,
     may "didChangeWatchedFiles" (.record "DidChangeWatchedFilesClientCapabilities"
       [dynamic, may "relativePatternSupport" .truth]),
     may "symbol" workspaceSymbols, may "executeCommand" dynamicOnly,
     may "workspaceFolders" .truth, may "configuration" .truth,
     may "semanticTokens" (refreshing "SemanticTokensWorkspaceClientCapabilities"),
     may "codeLens" (refreshing "CodeLensWorkspaceClientCapabilities"),
     may "fileOperations" fileOperations,
     may "inlineValue" (refreshing "InlineValueWorkspaceClientCapabilities"),
     may "inlayHint" (refreshing "InlayHintWorkspaceClientCapabilities"),
     may "diagnostic" (refreshing "DiagnosticWorkspaceClientCapabilities")]

/-! Documents. -/

def synchronization : Shape :=
  .record "TextDocumentSyncClientCapabilities"
    [dynamic, may "willSave" .truth, may "willSaveWaitUntil" .truth, may "didSave" .truth]

def completionItems : Shape :=
  .record "CompletionItemCapability"
    [may "snippetSupport" .truth, may "commitCharactersSupport" .truth,
     may "documentationFormat" (.list markupKind), may "deprecatedSupport" .truth,
     may "preselectSupport" .truth, tags, may "insertReplaceSupport" .truth,
     lazily "CompletionItemCapabilityResolveSupport",
     may "insertTextModeSupport"
       (.record "InsertTextModeSupport" [need "valueSet" (.list signed)]),
     may "labelDetailsSupport" .truth]

def completion : Shape :=
  .record "CompletionClientCapabilities"
    [dynamic, may "completionItem" completionItems,
     may "completionItemKind" (knownValues "CompletionItemKindCapability" signed),
     may "contextSupport" .truth, may "insertTextMode" signed,
     may "completionList"
       (.record "CompletionListCapability" [may "itemDefaults" (.list .text)])]

def hover : Shape :=
  .record "HoverClientCapabilities" [dynamic, may "contentFormat" (.list markupKind)]

def signatures : Shape :=
  .record "SignatureHelpClientCapabilities"
    [dynamic,
     may "signatureInformation" (.record "SignatureInformationSettings"
       [may "documentationFormat" (.list markupKind),
        may "parameterInformation"
          (.record "ParameterInformationSettings" [may "labelOffsetSupport" .truth]),
        may "activeParameterSupport" .truth]),
     may "contextSupport" .truth]

def documentSymbols : Shape :=
  .record "DocumentSymbolClientCapabilities"
    [dynamic, may "symbolKind" (knownValues "SymbolKindCapability" signed),
     may "hierarchicalDocumentSymbolSupport" .truth, tags]

def goto : Shape := .record "GotoCapability" [dynamic, may "linkSupport" .truth]

def codeActions : Shape :=
  .record "CodeActionClientCapabilities"
    [dynamic,
     may "codeActionLiteralSupport" (.record "CodeActionLiteralSupport"
       [need "codeActionKind"
         (.record "CodeActionKindLiteralSupport" [need "valueSet" (.list .text)])]),
     may "isPreferredSupport" .truth, may "disabledSupport" .truth, may "dataSupport" .truth,
     lazily "CodeActionCapabilityResolveSupport", may "honorsChangeAnnotations" .truth]

def renames : Shape :=
  .record "RenameClientCapabilities"
    [dynamic, may "prepareSupport" .truth, may "prepareSupportDefaultBehavior" signed,
     may "honorsChangeAnnotations" .truth]

def publishing : Shape :=
  .record "PublishDiagnosticsClientCapabilities"
    [may "relatedInformation" .truth, tags, may "versionSupport" .truth,
     may "codeDescriptionSupport" .truth, may "dataSupport" .truth]

def folding : Shape :=
  .record "FoldingRangeClientCapabilities"
    [dynamic, may "rangeLimit" unsigned, may "lineFoldingOnly" .truth,
     may "foldingRangeKind"
       (knownValues "FoldingRangeKindCapability" (.word ["comment", "imports", "region"])),
     may "foldingRange" (.record "FoldingRangeCapability" [may "collapsedText" .truth])]

def semanticTokens : Shape :=
  .record "SemanticTokensClientCapabilities"
    [dynamic,
     need "requests" (.record "SemanticTokensClientCapabilitiesRequests"
       [may "range" .truth,
        may "full" (.either "SemanticTokensFullOptions"
          [.truth, .record "SemanticTokensFullOptions" [may "delta" .truth]])]),
     need "tokenTypes" (.list .text), need "tokenModifiers" (.list .text),
     need "formats" (.list .text), may "overlappingTokenSupport" .truth,
     may "multilineTokenSupport" .truth, may "serverCancelSupport" .truth,
     may "augmentsSyntaxTokens" .truth]

def documentClient : Shape :=
  .record "TextDocumentClientCapabilities"
    [may "synchronization" synchronization, may "completion" completion, may "hover" hover,
     may "signatureHelp" signatures, may "references" dynamicOnly,
     may "documentHighlight" dynamicOnly, may "documentSymbol" documentSymbols,
     may "formatting" dynamicOnly, may "rangeFormatting" dynamicOnly,
     may "onTypeFormatting" dynamicOnly, may "declaration" goto, may "definition" goto,
     may "typeDefinition" goto, may "implementation" goto, may "codeAction" codeActions,
     may "codeLens" dynamicOnly,
     may "documentLink" (.record "DocumentLinkClientCapabilities"
       [dynamic, may "tooltipSupport" .truth]),
     may "colorProvider" dynamicOnly, may "rename" renames,
     may "publishDiagnostics" publishing, may "foldingRange" folding,
     may "selectionRange" (.record "SelectionRangeClientCapabilities" [dynamic]),
     may "linkedEditingRange" dynamicOnly, may "callHierarchy" dynamicOnly,
     may "semanticTokens" semanticTokens, may "moniker" dynamicOnly,
     may "typeHierarchy" dynamicOnly, may "inlineValue" dynamicOnly,
     may "inlayHint" (.record "InlayHintClientCapabilities"
       [dynamic, lazily "InlayHintResolveClientCapabilities"]),
     may "diagnostic" (.record "DiagnosticClientCapabilities"
       [dynamic, may "relatedDocumentSupport" .truth])]

def notebookClient : Shape :=
  .record "NotebookDocumentClientCapabilities"
    [need "synchronization" (.record "NotebookDocumentSyncClientCapabilities"
      [dynamic, may "executionSummarySupport" .truth])]

/-! The rest. -/

def windowClient : Shape :=
  .record "WindowClientCapabilities"
    [may "workDoneProgress" .truth,
     may "showMessage" (.record "ShowMessageRequestClientCapabilities"
       [may "messageActionItem"
         (.record "MessageActionItemCapabilities" [may "additionalPropertiesSupport" .truth])]),
     may "showDocument" (.record "ShowDocumentClientCapabilities" [need "support" .truth])]

def generalClient : Shape :=
  .record "GeneralClientCapabilities"
    [may "regularExpressions" (.record "RegularExpressionsClientCapabilities"
       [need "engine" .text, may "version" .text]),
     may "markdown" (.record "MarkdownClientCapabilities"
       [need "parser" .text, may "version" .text, may "allowedTags" (.list .text)]),
     may "staleRequestSupport" (.record "StaleRequestSupportClientCapabilities"
       [need "cancel" .truth, need "retryOnContentModified" (.list .text)]),
     may "positionEncodings" (.list .text)]

def clientCapabilities : Shape :=
  .record "ClientCapabilities"
    [may "workspace" workspaceClient, may "textDocument" documentClient,
     may "notebookDocument" notebookClient, may "window" windowClient,
     may "general" generalClient, may "experimental" .any]

def workspaceFolder : Shape :=
  .record "WorkspaceFolder" [need "uri" .address, need "name" .text]

def setup : Shape :=
  .record "InitializeParams"
    [may "processId" unsigned, may "rootPath" .text, (.defaulted "rootUri", .optional .address),
     may "initializationOptions" .any, need "capabilities" clientCapabilities,
     (.defaulted "trace", .optional (.word ["off", "messages", "verbose"])),
     may "workspaceFolders" (.list workspaceFolder),
     may "clientInfo" (.record "ClientInfo" [need "name" .text, may "version" .text]),
     may "locale" .text]

end Regimen.Protocol
