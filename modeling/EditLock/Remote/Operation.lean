/-
# Calls as requests

Every call is one request, which may be impossible to make, and a reading of what comes of it.

Key definitions: `Call.request`, `Call.conclude`.
-/
import EditLock.Remote.Address
import EditLock.Remote.Document

namespace EditLock.Call

/-- The forms of an answer to a lock request that are understood. -/
def lockAccept : String :=
  "application/vnd.sap.as+xml;charset=UTF-8;dataname=com.sap.adt.lock.result;q=0.8, " ++
    "application/vnd.sap.as+xml;charset=UTF-8;dataname=com.sap.adt.lock.result2;q=0.9"

/-- The request with a parameter if there is a value for it. -/
def withOptional (r : Request) (name : String) : Option String → Request
  | some value => r.withQuery name value
  | none => r

/-- The request that a call makes for an object. -/
def request (o : ObjectRef) : Call → Except Failure Request
  | .validate => do
    let path ← o.collectionPath
    let r : Request := { method := .post, path := path ++ "/validation" }
    let r := r.withQuery "objname" o.name
    let r := withOptional r "packagename" o.package
    return withOptional r "description" o.description
  | .create none =>
    throw (.config s!"creating {o.toText} requires an object description payload")
  | .create (some payload) => do
    let path ← o.collectionPath
    let r : Request := { method := .post, path }
    return r.withBody "application/*" payload
  | .check version payload => do
    let objectPath ← o.objectPath
    let sourcePath ← o.sourcePath
    let r : Request := { method := .post, path := "/sap/bc/adt/checkruns" }
    return (r.withQuery "reporters" "abapCheckRun").withBody
      "application/vnd.sap.adt.checkobjects+xml"
      (checkDocument objectPath sourcePath version payload)
  | .lock => do
    let path ← o.objectPath
    let r : Request := { method := .post, path }
    return ((r.withQuery "_action" "LOCK").withQuery "accessMode" "MODIFY").withHeader
      "Accept" lockAccept
  | .update handle payload => do
    let path ← o.sourcePath
    let r : Request := { method := .put, path }
    return (r.withQuery "lockHandle" handle).withBody sourceType payload
  | .unlock handle => do
    let path ← o.objectPath
    let r : Request := { method := .post, path }
    return (r.withQuery "_action" "UNLOCK").withQuery "lockHandle" handle
  | .activate => do
    let path ← o.objectPath
    let r : Request := { method := .post, path := "/sap/bc/adt/activation" }
    return ((r.withQuery "method" "activate").withQuery "preauditRequested" "true").withBody
      "application/xml" (activationDocument path o.name)
  | .delete handle => do
    let path ← o.objectPath
    let r : Request := { method := .post, path := "/sap/bc/adt/deletion/delete" }
    return withOptional (r.withBody "application/xml" (deletionDocument path)) "lockHandle" handle
  | .read _ => do
    let path ← o.sourcePath
    return { method := .get, path }

/-- A response that reports an error in its text is a failure. -/
def unlessReported (mark : String) (r : Response) : Except Failure Response :=
  if Text.hasText r.data mark then .error r.rejection else .ok r

/-- What a validation comes to. A refusal because the object exists is an expected outcome. -/
def validation : Except Failure Response → Except Failure Outcome
  | .ok r => .ok (.ofResponse r)
  | .error (.rejected status body) =>
    if status = 400 ∧ Text.hasText (Text.asciiLower body) "already exist" then
      .ok (.alternate "object already exists" { status := 400, data := body })
    else .error (.rejected status body)
  | .error e => .error e

/-- What a lock request comes to. -/
def granted (r : Response) : Except Failure String :=
  match lockHandle? r.data with
  | some handle => .ok handle
  | none => .error (.rejected r.status s!"lock response carried no LOCK_HANDLE: {r.data}")

/-- What the result of its request means for a call. -/
def conclude : (c : Call) → Except Failure Response → Except Failure c.Answer
  | .validate, result => validation result
  | .check _ _, result => result.bind (unlessReported "chkrun:type=\"E\"")
  | .lock, result => result.bind granted
  | .activate, result => result.bind (unlessReported "type=\"E\"")
  | .create _, result => result
  | .update _ _, result => result
  | .unlock _, result => result
  | .delete _, result => result
  | .read _, result => result

end EditLock.Call
