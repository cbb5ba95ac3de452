/-
# Documents

The documents that requests carry, and what is looked for in the documents that come back.

Key definitions: `checkDocument`, `activationDocument`, `deletionDocument`, `lockHandle?`,
`Outcome.ofResponse`.
-/
import EditLock.Remote.Call
import EditLock.Text.Markup

namespace EditLock

open Text

/-- The first line of every document. -/
def documentHead : String :=
  "<?xml version=\"1.0\" encoding=\"UTF-8\"?>\n"

/-- The type of sources. -/
def sourceType : String := "text/plain; charset=utf-8"

/-- The part of a check that carries a source which is not stored yet. -/
def artifacts (sourcePath source : String) : String :=
  "\n    <chkrun:artifacts>\n      <chkrun:artifact chkrun:contentType=\"" ++ sourceType ++
    "\" chkrun:uri=\"" ++ escapeMarkup sourcePath ++ "\">\n        <chkrun:content>" ++
    escapeMarkup source ++
    "</chkrun:content>\n      </chkrun:artifact>\n    </chkrun:artifacts>"

/-- Asks for a check of a version of an object, or of a source that it is to have. -/
def checkDocument (objectPath sourcePath : String) (version : Version)
    (payload : Option String) : String :=
  documentHead ++
    "<chkrun:checkObjectList xmlns:chkrun=\"http://www.sap.com/adt/checkrun\" " ++
    "xmlns:adtcore=\"http://www.sap.com/adt/core\">\n  <chkrun:checkObject adtcore:uri=\"" ++
    escapeMarkup objectPath ++ "\" chkrun:version=\"" ++ version.name ++ "\">" ++
    (match payload with
      | some source => artifacts sourcePath source
      | none => "") ++
    "\n  </chkrun:checkObject>\n</chkrun:checkObjectList>"

/-- Asks for the activation of an object. -/
def activationDocument (objectPath name : String) : String :=
  documentHead ++
    "<adtcore:objectReferences xmlns:adtcore=\"http://www.sap.com/adt/core\">\n" ++
    "  <adtcore:objectReference adtcore:uri=\"" ++ escapeMarkup objectPath ++
    "\" adtcore:name=\"" ++ escapeMarkup name ++ "\"/>\n</adtcore:objectReferences>"

/-- Asks for the deletion of an object. -/
def deletionDocument (objectPath : String) : String :=
  documentHead ++
    "<del:deletionRequest xmlns:del=\"http://www.sap.com/adt/deletion\" " ++
    "xmlns:adtcore=\"http://www.sap.com/adt/core\">\n  <del:object adtcore:uri=\"" ++
    escapeMarkup objectPath ++ "\"/>\n</del:deletionRequest>"

/-- The handle that the answer to a lock request grants: the text of the leftmost filled handle
element, trimmed, unless it is blank. -/
def lockHandle? (body : String) : Option String :=
  ((elementText? "LOCK_HANDLE".toList true body.toList).map fun t =>
    String.ofList (trim t)).filter fun handle => !handle.isEmpty

/-- What a response to a validation says. -/
def Outcome.ofResponse (r : Response) : Outcome :=
  if hasText r.data "<SEVERITY>ERROR</SEVERITY>" then
    let text := elementText? "SHORT_TEXT".toList false r.data.toList
    .alternate ((text.map String.ofList).getD "validation failed") r
  else .accepted r

end EditLock
