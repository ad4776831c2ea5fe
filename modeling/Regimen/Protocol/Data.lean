import Regimen.Shape

/-! The shapes of the data that messages of the language server protocol are made of. -/
namespace Regimen.Protocol
open Shape

/-! Places in documents. -/

def position : Shape := .record "Position" [need "line" unsigned, need "character" unsigned]

def range : Shape := .record "Range" [need "start" position, need "end" position]

def location : Shape := .record "Location" [need "uri" .address, need "range" range]

def document : Shape := .record "TextDocumentIdentifier" [need "uri" .address]

def documentVersion : Shape :=
  .record "VersionedTextDocumentIdentifier" [need "uri" .address, need "version" signed]

def anyDocumentVersion : Shape :=
  .record "OptionalVersionedTextDocumentIdentifier" [need "uri" .address, may "version" signed]

def documentItem : Shape :=
  .record "TextDocumentItem"
    [need "uri" .address, need "languageId" .text, need "version" signed, need "text" .text]

def documentPosition : Shape :=
  .record "TextDocumentPositionParams" [need "textDocument" document, need "position" position]

/-! Progress of long requests. -/

def numberOrText : Shape := .either "NumberOrString" [signed, .text]

def workDone : Shape := .record "WorkDoneProgressParams" [may "workDoneToken" numberOrText]

def partialResult : Shape := .record "PartialResultParams" [may "partialResultToken" numberOrText]

/-! Texts for the user. -/

def markupKind : Shape := .word ["plaintext", "markdown"]

def markup : Shape := .record "MarkupContent" [need "kind" markupKind, need "value" .text]

def documentation : Shape := .either "Documentation" [.text, markup]

def command : Shape :=
  .record "Command" [need "title" .text, need "command" .text, may "arguments" (.list .any)]

/-! Changes to documents. -/

def contentChange : Shape :=
  .record "TextDocumentContentChangeEvent"
    [may "range" range, may "rangeLength" unsigned, need "text" .text]

def textEdit : Shape := .record "TextEdit" [need "range" range, need "newText" .text]

def annotatedEdit : Shape :=
  .record "AnnotatedTextEdit" [among textEdit, need "annotationId" .text]

def documentEdit : Shape :=
  .record "TextDocumentEdit"
    [need "textDocument" anyDocumentVersion,
     need "edits" (.list (.either "OneOf" [textEdit, annotatedEdit]))]

def fileOptions (name : String) : Shape :=
  .record name [may "overwrite" .truth, may "ignoreIfExists" .truth]

def createFile : Shape :=
  .record "CreateFile"
    [need "kind" (.word ["create"]), need "uri" .address,
     may "options" (fileOptions "CreateFileOptions"), may "annotationId" .text]

def renameFile : Shape :=
  .record "RenameFile"
    [need "kind" (.word ["rename"]), need "oldUri" .address, need "newUri" .address,
     may "options" (fileOptions "RenameFileOptions"), may "annotationId" .text]

def deleteFileOptions : Shape :=
  .record "DeleteFileOptions"
    [may "recursive" .truth, may "ignoreIfNotExists" .truth, may "annotationId" .text]

def deleteFile : Shape :=
  .record "DeleteFile"
    [need "kind" (.word ["delete"]), need "uri" .address, may "options" deleteFileOptions]

def documentChanges : Shape :=
  .either "DocumentChanges"
    [.list documentEdit,
     .list (.either "DocumentChangeOperation" [createFile, renameFile, deleteFile, documentEdit])]

def changeAnnotation : Shape :=
  .record "ChangeAnnotation"
    [need "label" .text, may "needsConfirmation" .truth, may "description" .text]

def workspaceEdit : Shape :=
  .record "WorkspaceEdit"
    [(.defaulted "changes", .optional (.addressTable (.list textEdit))),
     may "documentChanges" documentChanges, may "changeAnnotations" (.table changeAnnotation)]

/-! Diagnostics and code actions. -/

def diagnostic : Shape :=
  .record "Diagnostic"
    [need "range" range, may "severity" signed, may "code" numberOrText,
     may "codeDescription" (.record "CodeDescription" [need "href" .address]), may "source" .text,
     need "message" .text,
     may "relatedInformation" (.list (.record "DiagnosticRelatedInformation"
       [need "location" location, need "message" .text])),
     may "tags" (.list signed), may "data" .any]

def codeActionContext : Shape :=
  .record "CodeActionContext"
    [need "diagnostics" (.list diagnostic), may "only" (.list .text), may "triggerKind" signed]

def codeAction : Shape :=
  .record "CodeAction"
    [need "title" .text, may "kind" .text, may "diagnostics" (.list diagnostic),
     may "edit" workspaceEdit, may "command" command, may "isPreferred" .truth,
     may "disabled" (.record "CodeActionDisabled" [need "reason" .text]), may "data" .any]

/-! Symbols. -/

def callItem : Shape :=
  .record "CallHierarchyItem"
    [need "name" .text, need "kind" signed, may "tags" (.list signed), may "detail" .text,
     need "uri" .address, need "range" range, need "selectionRange" range, may "data" .any]

def typeItem : Shape :=
  .record "TypeHierarchyItem"
    [need "name" .text, need "kind" signed, may "tags" signed, may "detail" .text,
     need "uri" .address, need "range" range, need "selectionRange" range, may "data" .any]

def workspaceSymbol : Shape :=
  .record "WorkspaceSymbol"
    [need "name" .text, need "kind" signed, may "tags" (.list signed), may "containerName" .text,
     need "location"
       (.either "OneOf" [location, .record "WorkspaceLocation" [need "uri" .address]]),
     may "data" .any]

/-! Hints, links and completions. -/

def documentLink : Shape :=
  .record "DocumentLink"
    [need "range" range, may "target" .address, may "tooltip" .text, may "data" .any]

def codeLens : Shape :=
  .record "CodeLens" [need "range" range, may "command" command, may "data" .any]

def hintPart : Shape :=
  .record "InlayHintLabelPart"
    [need "value" .text, may "tooltip" (.either "InlayHintLabelPartTooltip" [.text, markup]),
     may "location" location, may "command" command]

def inlayHint : Shape :=
  .record "InlayHint"
    [need "position" position,
     need "label" (.either "InlayHintLabel" [.text, .list hintPart]), may "kind" signed,
     may "textEdits" (.list textEdit), may "tooltip" (.either "InlayHintTooltip" [.text, markup]),
     may "paddingLeft" .truth, may "paddingRight" .truth, may "data" .any]

def replaceEdit : Shape :=
  .record "InsertReplaceEdit"
    [need "newText" .text, need "insert" range, need "replace" range]

def completionItem : Shape :=
  .record "CompletionItem"
    [need "label" .text,
     may "labelDetails" (.record "CompletionItemLabelDetails"
       [may "detail" .text, may "description" .text]),
     may "kind" signed, may "detail" .text, may "documentation" documentation,
     may "deprecated" .truth, may "preselect" .truth, may "sortText" .text, may "filterText" .text,
     may "insertText" .text, may "insertTextFormat" signed, may "insertTextMode" signed,
     may "textEdit" (.either "CompletionTextEdit" [textEdit, replaceEdit]),
     may "additionalTextEdits" (.list textEdit), may "command" command,
     may "commitCharacters" (.list .text), may "data" .any, may "tags" (.list signed)]

def completionContext : Shape :=
  .record "CompletionContext" [need "triggerKind" signed, may "triggerCharacter" .text]

def parameterInformation : Shape :=
  .record "ParameterInformation"
    [need "label" (.either "ParameterLabel" [.text, .tuple 2 unsigned]),
     may "documentation" documentation]

def signatureInformation : Shape :=
  .record "SignatureInformation"
    [need "label" .text, may "documentation" documentation,
     may "parameters" (.list parameterInformation), may "activeParameter" unsigned]

def signatureHelp : Shape :=
  .record "SignatureHelp"
    [need "signatures" (.list signatureInformation), may "activeSignature" unsigned,
     may "activeParameter" unsigned]

def signatureHelpContext : Shape :=
  .record "SignatureHelpContext"
    [need "triggerKind" signed, may "triggerCharacter" .text, need "isRetrigger" .truth,
     may "activeSignatureHelp" signatureHelp]

/-! Layout. -/

def formattingOptions : Shape :=
  .record "FormattingOptions"
    [need "tabSize" unsigned, need "insertSpaces" .truth,
     among (.table (.either "FormattingProperty" [.truth, signed, .text])),
     may "trimTrailingWhitespace" .truth, may "insertFinalNewline" .truth,
     may "trimFinalNewlines" .truth]

def color : Shape :=
  .record "Color"
    [need "red" .real, need "green" .real, need "blue" .real, need "alpha" .real]

end Regimen.Protocol
