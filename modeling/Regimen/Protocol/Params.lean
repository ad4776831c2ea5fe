import Regimen.Protocol.Client

/-! The shapes of the parameters of each method of the language server protocol. -/
namespace Regimen.Protocol
open Shape

/-! Methods that the server serves. -/

def ready : Shape := .record "InitializedParams" []

def opened : Shape := .record "DidOpenTextDocumentParams" [need "textDocument" documentItem]

def changed : Shape :=
  .record "DidChangeTextDocumentParams"
    [need "textDocument" documentVersion, need "contentChanges" (.list contentChange)]

def saved : Shape :=
  .record "DidSaveTextDocumentParams" [need "textDocument" document, may "text" .text]

def closed : Shape := .record "DidCloseTextDocumentParams" [need "textDocument" document]

def formatting : Shape :=
  .record "DocumentFormattingParams"
    [need "textDocument" document, need "options" formattingOptions, among workDone]

def foldingRange : Shape :=
  .record "FoldingRangeParams"
    [need "textDocument" document, among workDone, among partialResult]

/-! Requests that it does not serve; their parameters are read all the same. -/

def onDocument (name : String) (more : Fields) : Shape :=
  .record name (need "textDocument" document :: more ++ [among workDone, among partialResult])

def atPosition (name : String) (more : Fields) : Shape :=
  .record name ([among documentPosition, among workDone] ++ more)

def atPositionInParts (name : String) (more : Fields) : Shape :=
  atPosition name (among partialResult :: more)

def onItem (name : String) (item : Shape) : Shape :=
  .record name [need "item" item, among workDone, among partialResult]

def goToDefinition : Shape := atPositionInParts "GotoDefinitionParams" []

def files (name item : String) (addresses : List String) : Shape :=
  .record name [need "files" (.list (.record item (addresses.map (need · .text))))]

def unserved : List (String × Shape) :=
  [("textDocument/willSaveWaitUntil", .record "WillSaveTextDocumentParams"
     [need "textDocument" document, need "reason" signed]),
   ("textDocument/declaration", goToDefinition),
   ("textDocument/definition", goToDefinition),
   ("textDocument/typeDefinition", goToDefinition),
   ("textDocument/implementation", goToDefinition),
   ("textDocument/references", atPositionInParts "ReferenceParams"
     [need "context" (.record "ReferenceContext" [need "includeDeclaration" .truth])]),
   ("textDocument/prepareCallHierarchy", atPosition "CallHierarchyPrepareParams" []),
   ("callHierarchy/incomingCalls", onItem "CallHierarchyIncomingCallsParams" callItem),
   ("callHierarchy/outgoingCalls", onItem "CallHierarchyOutgoingCallsParams" callItem),
   ("textDocument/prepareTypeHierarchy", atPosition "TypeHierarchyPrepareParams" []),
   ("typeHierarchy/supertypes", onItem "TypeHierarchySupertypesParams" typeItem),
   ("typeHierarchy/subtypes", onItem "TypeHierarchySubtypesParams" typeItem),
   ("textDocument/documentHighlight", atPositionInParts "DocumentHighlightParams" []),
   ("textDocument/documentLink", onDocument "DocumentLinkParams" []),
   ("documentLink/resolve", documentLink),
   ("textDocument/hover", atPosition "HoverParams" []),
   ("textDocument/codeLens", onDocument "CodeLensParams" []),
   ("codeLens/resolve", codeLens),
   ("textDocument/selectionRange", onDocument "SelectionRangeParams"
     [need "positions" (.list position)]),
   ("textDocument/documentSymbol", onDocument "DocumentSymbolParams" []),
   ("textDocument/semanticTokens/full", onDocument "SemanticTokensParams" []),
   ("textDocument/semanticTokens/full/delta", onDocument "SemanticTokensDeltaParams"
     [need "previousResultId" .text]),
   ("textDocument/semanticTokens/range", onDocument "SemanticTokensRangeParams"
     [need "range" range]),
   ("textDocument/inlineValue", .record "InlineValueParams"
     [among workDone, need "textDocument" document, need "range" range,
      need "context" (.record "InlineValueContext"
        [need "frameId" signed, need "stoppedLocation" range])]),
   ("textDocument/inlayHint", .record "InlayHintParams"
     [among workDone, need "textDocument" document, need "range" range]),
   ("inlayHint/resolve", inlayHint),
   ("textDocument/moniker", atPositionInParts "MonikerParams" []),
   ("textDocument/completion", atPositionInParts "CompletionParams"
     [may "context" completionContext]),
   ("completionItem/resolve", completionItem),
   ("textDocument/diagnostic", onDocument "DocumentDiagnosticParams"
     [may "identifier" .text, may "previousResultId" .text]),
   ("workspace/diagnostic", .record "WorkspaceDiagnosticParams"
     [may "identifier" .text,
      need "previousResultIds" (.list (.record "PreviousResultId"
        [need "uri" .address, need "value" .text])),
      among workDone, among partialResult]),
   ("textDocument/signatureHelp", atPosition "SignatureHelpParams"
     [may "context" signatureHelpContext]),
   ("textDocument/codeAction", onDocument "CodeActionParams"
     [need "range" range, need "context" codeActionContext]),
   ("codeAction/resolve", codeAction),
   ("textDocument/documentColor", onDocument "DocumentColorParams" []),
   ("textDocument/colorPresentation", onDocument "ColorPresentationParams"
     [need "color" color, need "range" range]),
   ("textDocument/rangeFormatting", .record "DocumentRangeFormattingParams"
     [need "textDocument" document, need "range" range, need "options" formattingOptions,
      among workDone]),
   ("textDocument/onTypeFormatting", .record "DocumentOnTypeFormattingParams"
     [among documentPosition, need "ch" .text, need "options" formattingOptions]),
   ("textDocument/rename", atPosition "RenameParams" [need "newName" .text]),
   ("textDocument/prepareRename", documentPosition),
   ("textDocument/linkedEditingRange", atPosition "LinkedEditingRangeParams" []),
   ("workspace/symbol", .record "WorkspaceSymbolParams"
     [among partialResult, among workDone, need "query" .text]),
   ("workspaceSymbol/resolve", workspaceSymbol),
   ("workspace/willCreateFiles", files "CreateFilesParams" "FileCreate" ["uri"]),
   ("workspace/willRenameFiles", files "RenameFilesParams" "FileRename" ["oldUri", "newUri"]),
   ("workspace/willDeleteFiles", files "DeleteFilesParams" "FileDelete" ["uri"]),
   ("workspace/executeCommand", .record "ExecuteCommandParams"
     [need "command" .text, (.defaulted "arguments", .list .any), among workDone])]

end Regimen.Protocol
