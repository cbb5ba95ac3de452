/-
# What documents carry

The documents of checks, activations and deletions are fixed markup with addresses, names and
sources put in between. Each of these is escaped where it is put, so it stays in its attribute or in
its text: the tags of a document do not depend on what it carries, and a reader finds in each place
the text that was put there, for every object that has an address and for every source.

Key definitions: `checkTokens`, `activationTokens`, `deletionTokens`, `ChecksObject`.
Key theorems: `tokens_checkDocument`, `tokens_activationDocument`, `tokens_deletionDocument`,
`checksObject_checkDocument`, `Call.documents_carry`.
-/
import EditLock.Proofs.Text.Markup
import EditLock.Remote.Operation

namespace EditLock

open Text Markup

/-! ### Checks -/

/-- A check up to the address of the object. -/
def checkStart : String :=
  documentHead ++
    "<chkrun:checkObjectList xmlns:chkrun=\"http://www.sap.com/adt/checkrun\" " ++
    "xmlns:adtcore=\"http://www.sap.com/adt/core\">\n  <chkrun:checkObject adtcore:uri=\""

/-- A check between the address of the object and the source. -/
def checkVersion (version : Version) : String :=
  "\" chkrun:version=\"" ++ version.name ++ "\">"

/-- The part of a check that carries a source, up to the address of the source. -/
def artifactsStart : String :=
  "\n    <chkrun:artifacts>\n      <chkrun:artifact chkrun:contentType=\"" ++ sourceType ++
    "\" chkrun:uri=\""

/-- What stands between the address of the source and the source. -/
def artifactsMiddle : String := "\">\n        <chkrun:content>"

/-- The tag after which a source stands. -/
def contentTag : String := "<chkrun:content>"

/-- What follows the source. -/
def artifactsEnd : String :=
  "</chkrun:content>\n      </chkrun:artifact>\n    </chkrun:artifacts>"

/-- The part of a check that depends on whether it carries a source. -/
def payloadPart (sourcePath : String) : Option String → String
  | some source => artifacts sourcePath source
  | none => ""

/-- The end of a check. -/
def checkEnd : String :=
  "\n  </chkrun:checkObject>\n</chkrun:checkObjectList>"

theorem toList_artifacts (sourcePath source : String) :
    (artifacts sourcePath source).toList =
      artifactsStart.toList ++ ((escapeMarkup sourcePath).toList ++ (artifactsMiddle.toList ++
        ((escapeMarkup source).toList ++ artifactsEnd.toList))) := by
  have hparts : artifacts sourcePath source = artifactsStart ++ escapeMarkup sourcePath ++
      artifactsMiddle ++ escapeMarkup source ++ artifactsEnd := rfl
  simp only [hparts, String.toList_append, List.append_assoc]

theorem toList_checkDocument (objectPath sourcePath : String) (version : Version)
    (payload : Option String) :
    (checkDocument objectPath sourcePath version payload).toList =
      checkStart.toList ++ ((escapeMarkup objectPath).toList ++ ((checkVersion version).toList ++
        ((payloadPart sourcePath payload).toList ++ checkEnd.toList))) := by
  have hparts : checkDocument objectPath sourcePath version payload =
      checkStart ++ escapeMarkup objectPath ++ checkVersion version ++
        payloadPart sourcePath payload ++ checkEnd := by
    cases payload
    all_goals
      unfold checkDocument payloadPart checkVersion
      simp only [← String.append_assoc]
      rfl
  simp only [hparts, String.toList_append, List.append_assoc]

/-- What is found at the start of every document. -/
def headTokens : List Token :=
  [.text "", .tag "?xml", .attribute "version" "1.0", .attribute "encoding" "UTF-8", .text "\n"]

/-- What is found in the part of a check that carries a source. -/
def artifactsTokens (sourcePath source : String) : List Token :=
  [.text "\n    ", .tag "chkrun:artifacts",
   .text "\n      ", .tag "chkrun:artifact", .attribute "chkrun:contentType" sourceType,
     .attribute "chkrun:uri" (escapeMarkup sourcePath),
   .text "\n        ", .tag "chkrun:content",
   .text (escapeMarkup source), .tag "/chkrun:content",
   .text "\n      ", .tag "/chkrun:artifact",
   .text "\n    ", .tag "/chkrun:artifacts"]

/-- What is found in the part of a check that depends on whether it carries a source. -/
def payloadTokens (sourcePath : String) : Option String → List Token
  | some source => artifactsTokens sourcePath source
  | none => []

/-- What is found in a check. -/
def checkTokens (objectPath sourcePath : String) (version : Version) (payload : Option String) :
    List Token :=
  headTokens ++
    [.tag "chkrun:checkObjectList", .attribute "xmlns:chkrun" "http://www.sap.com/adt/checkrun",
       .attribute "xmlns:adtcore" "http://www.sap.com/adt/core",
     .text "\n  ", .tag "chkrun:checkObject", .attribute "adtcore:uri" (escapeMarkup objectPath),
       .attribute "chkrun:version" version.name] ++
    payloadTokens sourcePath payload ++
    [.text "\n  ", .tag "/chkrun:checkObject", .text "\n", .tag "/chkrun:checkObjectList"]

theorem scan_payloadPart (sourcePath : String) (payload : Option String) :
    scan (.text []) (payloadPart sourcePath payload).toList =
      (payloadTokens sourcePath payload, .text []) := by
  cases payload with
  | none => rfl
  | some source =>
    have hstart : scan (.text []) artifactsStart.toList =
        ([.text "\n    ", .tag "chkrun:artifacts", .text "\n      ", .tag "chkrun:artifact",
          .attribute "chkrun:contentType" sourceType], .value "chkrun:uri".toList '"' []) := by
      decide +kernel
    have hmiddle : scan .between artifactsMiddle.toList.tail =
        ([.text "\n        ", .tag "chkrun:content"], .text []) := by
      decide +kernel
    have hend : scan (.tag []) artifactsEnd.toList.tail =
        ([.tag "/chkrun:content", .text "\n      ", .tag "/chkrun:artifact", .text "\n    ",
          .tag "/chkrun:artifacts"], .text []) := by
      decide +kernel
    have haddress := scan_escaped_value "chkrun:uri" sourcePath (by decide +kernel) hmiddle
    have hsource := scan_escaped_text source (by decide +kernel) hend
    rw [payloadPart, toList_artifacts, ← List.append_assoc _ artifactsMiddle.toList]
    exact scan_trans hstart (scan_trans haddress hsource)

/-- **A check is read as it was meant**, whatever source it carries. -/
theorem tokens_checkDocument (objectPath sourcePath : String) (version : Version)
    (payload : Option String) :
    tokens (checkDocument objectPath sourcePath version payload) =
      checkTokens objectPath sourcePath version payload := by
  have hstart : scan (.text []) checkStart.toList =
      (headTokens ++ [.tag "chkrun:checkObjectList",
        .attribute "xmlns:chkrun" "http://www.sap.com/adt/checkrun",
        .attribute "xmlns:adtcore" "http://www.sap.com/adt/core",
        .text "\n  ", .tag "chkrun:checkObject"], .value "adtcore:uri".toList '"' []) := by
    simp only [checkStart, String.toList_append]
    decide +kernel
  have hversion : scan .between (checkVersion version).toList.tail =
      ([.attribute "chkrun:version" version.name], .text []) := by
    cases version <;> decide +kernel
  have hquote : (checkVersion version).toList.head? = some '"' := by
    cases version <;> decide +kernel
  have hend : scan (.text []) checkEnd.toList =
      ([.text "\n  ", .tag "/chkrun:checkObject", .text "\n", .tag "/chkrun:checkObjectList"],
        .text []) := by
    decide +kernel
  have haddress := scan_escaped_value "adtcore:uri" objectPath hquote hversion
  have hpayload := scan_payloadPart sourcePath payload
  rw [tokens, toList_checkDocument, ← List.append_assoc _ (checkVersion version).toList,
    scan_trans hstart (scan_trans haddress (scan_trans hpayload hend))]
  simp only [checkTokens, List.append_assoc, List.cons_append, List.nil_append]

/-- **The source of a check is found** after its tag, and there only. -/
theorem textAfter?_checkDocument (objectPath sourcePath : String) (version : Version)
    (payload : Option String) :
    textAfter? contentTag (checkDocument objectPath sourcePath version payload) = payload := by
  have hstart : IsApart contentTag.toList checkStart.toList := by
    simp only [checkStart, String.toList_append]
    decide +kernel
  have hversion : IsApart contentTag.toList (checkVersion version).toList := by
    cases version <;> decide +kernel
  have hend : IsApart contentTag.toList checkEnd.toList := by decide +kernel
  have hescaped : ∀ s, IsApart contentTag.toList (escapeMarkup s).toList := fun s =>
    isApart_escapeMarkup (by decide) s
  rw [textAfter?, toList_checkDocument, markupAfter?_apart hstart, markupAfter?_apart (hescaped _),
    markupAfter?_apart hversion]
  cases payload with
  | none =>
    rw [payloadPart, ← List.append_nil checkEnd.toList, String.toList_empty, List.nil_append,
      markupAfter?_apart hend]
    rfl
  | some source =>
    have hopening : IsApart contentTag.toList artifactsStart.toList := by
      decide +kernel
    have hmiddle : artifactsMiddle.toList = "\">\n        ".toList ++ contentTag.toList := by
      decide +kernel
    have hgap : IsApart contentTag.toList "\">\n        ".toList := by decide +kernel
    have htag : (artifactsEnd.toList ++ checkEnd.toList).head? = some '<' := by decide +kernel
    have hfilled : contentTag.toList ≠ [] := by decide
    have hsource := markupAfter?_mark hfilled source htag
    rw [payloadPart, toList_artifacts, List.append_assoc, markupAfter?_apart hopening,
      List.append_assoc, markupAfter?_apart (hescaped _), hmiddle, List.append_assoc,
      List.append_assoc, markupAfter?_apart hgap, List.append_assoc]
    have hfound := congrArg (Option.map fun cs => unescape (String.ofList cs)) hsource
    simpa only [Option.map_some, String.ofList_toList, unescape_escapeMarkup] using hfound

/-! ### Activations and deletions -/

/-- An activation up to the address of the object. -/
def activationStart : String :=
  documentHead ++
    "<adtcore:objectReferences xmlns:adtcore=\"http://www.sap.com/adt/core\">\n" ++
    "  <adtcore:objectReference adtcore:uri=\""

/-- What stands between the address and the name of an object. -/
def activationMiddle : String := "\" adtcore:name=\""

/-- The end of an activation. -/
def activationEnd : String := "\"/>\n</adtcore:objectReferences>"

theorem toList_activationDocument (objectPath name : String) :
    (activationDocument objectPath name).toList =
      activationStart.toList ++ ((escapeMarkup objectPath).toList ++ (activationMiddle.toList ++
        ((escapeMarkup name).toList ++ activationEnd.toList))) := by
  have hparts : activationDocument objectPath name = activationStart ++ escapeMarkup objectPath ++
      activationMiddle ++ escapeMarkup name ++ activationEnd := rfl
  simp only [hparts, String.toList_append, List.append_assoc]

/-- What is found in an activation. -/
def activationTokens (objectPath name : String) : List Token :=
  headTokens ++
    [.tag "adtcore:objectReferences", .attribute "xmlns:adtcore" "http://www.sap.com/adt/core",
     .text "\n  ", .tag "adtcore:objectReference",
       .attribute "adtcore:uri" (escapeMarkup objectPath),
       .attribute "adtcore:name" (escapeMarkup name),
     .text "\n", .tag "/adtcore:objectReferences"]

/-- **An activation is read as it was meant.** -/
theorem tokens_activationDocument (objectPath name : String) :
    tokens (activationDocument objectPath name) = activationTokens objectPath name := by
  have hstart : scan (.text []) activationStart.toList =
      (headTokens ++ [.tag "adtcore:objectReferences",
        .attribute "xmlns:adtcore" "http://www.sap.com/adt/core",
        .text "\n  ", .tag "adtcore:objectReference"], .value "adtcore:uri".toList '"' []) := by
    simp only [activationStart, String.toList_append]
    decide +kernel
  have hmiddle : scan .between activationMiddle.toList.tail =
      ([], .value "adtcore:name".toList '"' []) := by
    decide +kernel
  have hend : scan .between activationEnd.toList.tail =
      ([.text "\n", .tag "/adtcore:objectReferences"], .text []) := by
    decide +kernel
  have haddress := scan_escaped_value "adtcore:uri" objectPath (by decide +kernel) hmiddle
  have hname := scan_escaped_value "adtcore:name" name (by decide +kernel) hend
  rw [tokens, toList_activationDocument, ← List.append_assoc _ activationMiddle.toList,
    scan_trans hstart (scan_trans haddress hname)]
  simp only [activationTokens, List.append_assoc, List.cons_append, List.nil_append]

/-- A deletion up to the address of the object. -/
def deletionStart : String :=
  documentHead ++
    "<del:deletionRequest xmlns:del=\"http://www.sap.com/adt/deletion\" " ++
    "xmlns:adtcore=\"http://www.sap.com/adt/core\">\n  <del:object adtcore:uri=\""

/-- The end of a deletion. -/
def deletionEnd : String := "\"/>\n</del:deletionRequest>"

theorem toList_deletionDocument (objectPath : String) :
    (deletionDocument objectPath).toList =
      deletionStart.toList ++ ((escapeMarkup objectPath).toList ++ deletionEnd.toList) := by
  have hparts : deletionDocument objectPath =
      deletionStart ++ escapeMarkup objectPath ++ deletionEnd := rfl
  simp only [hparts, String.toList_append, List.append_assoc]

/-- What is found in a deletion. -/
def deletionTokens (objectPath : String) : List Token :=
  headTokens ++
    [.tag "del:deletionRequest", .attribute "xmlns:del" "http://www.sap.com/adt/deletion",
       .attribute "xmlns:adtcore" "http://www.sap.com/adt/core",
     .text "\n  ", .tag "del:object", .attribute "adtcore:uri" (escapeMarkup objectPath),
     .text "\n", .tag "/del:deletionRequest"]

/-- **A deletion is read as it was meant.** -/
theorem tokens_deletionDocument (objectPath : String) :
    tokens (deletionDocument objectPath) = deletionTokens objectPath := by
  have hstart : scan (.text []) deletionStart.toList =
      (headTokens ++ [.tag "del:deletionRequest",
        .attribute "xmlns:del" "http://www.sap.com/adt/deletion",
        .attribute "xmlns:adtcore" "http://www.sap.com/adt/core",
        .text "\n  ", .tag "del:object"], .value "adtcore:uri".toList '"' []) := by
    simp only [deletionStart, String.toList_append]
    decide +kernel
  have hend : scan .between deletionEnd.toList.tail =
      ([.text "\n", .tag "/del:deletionRequest"], .text []) := by
    decide +kernel
  have haddress := scan_escaped_value "adtcore:uri" objectPath (by decide +kernel) hend
  rw [tokens, toList_deletionDocument, scan_trans hstart haddress]
  simp only [deletionTokens, List.append_assoc, List.cons_append, List.nil_append]

/-! ### The documents of requests -/

/-- The tags of a check. -/
def checkTags (withSource : Bool) : List String :=
  ["?xml", "chkrun:checkObjectList", "chkrun:checkObject"] ++
    (if withSource then
      ["chkrun:artifacts", "chkrun:artifact", "chkrun:content", "/chkrun:content",
        "/chkrun:artifact", "/chkrun:artifacts"]
    else []) ++
    ["/chkrun:checkObject", "/chkrun:checkObjectList"]

/-- A document asks for the check of an object at an address, and of a source if there is one. -/
structure ChecksObject (objectPath sourcePath : String) (payload : Option String)
    (document : String) : Prop where
  /-- No payload adds a tag. -/
  tags : tags document = checkTags payload.isSome
  object : attributeTexts "adtcore:uri" document = [objectPath]
  source : attributeTexts "chkrun:uri" document = (payload.map fun _ => sourcePath).toList
  content : textAfter? contentTag document = payload

/-- **A check carries what it is given**, and nothing that this could add. -/
theorem checksObject_checkDocument (objectPath sourcePath : String) (version : Version)
    (payload : Option String) :
    ChecksObject objectPath sourcePath payload
      (checkDocument objectPath sourcePath version payload) where
  tags := by
    rw [Markup.tags, tokens_checkDocument]
    cases payload <;> rfl
  object := by
    rw [attributeTexts, tokens_checkDocument]
    cases payload <;>
      simp [checkTokens, headTokens, payloadTokens, artifactsTokens, unescape_escapeMarkup]
  source := by
    rw [attributeTexts, tokens_checkDocument]
    cases payload <;>
      simp [checkTokens, headTokens, payloadTokens, artifactsTokens, unescape_escapeMarkup]
  content := textAfter?_checkDocument objectPath sourcePath version payload

/-- An object with an address has an address for its source. -/
theorem sourcePath_of_objectPath {o : ObjectRef} {path : String} (h : o.objectPath = .ok path) :
    ∃ sourcePath, o.sourcePath = .ok sourcePath := by
  unfold ObjectRef.sourcePath
  rw [h]
  exact ⟨_, rfl⟩

/-- The call makes a request for the object, and its body is the document. -/
def Call.Carries (c : Call) (o : ObjectRef) (document : String) : Prop :=
  ∃ r, c.request o = .ok r ∧ r.body = some document

theorem carries_check {o : ObjectRef} {path sourcePath : String} (hpath : o.objectPath = .ok path)
    (hsource : o.sourcePath = .ok sourcePath) (version : Version) (payload : Option String) :
    (Call.check version payload).Carries o (checkDocument path sourcePath version payload) := by
  rw [Call.Carries, Call.request, hpath, hsource]
  exact ⟨_, rfl, rfl⟩

theorem carries_activate {o : ObjectRef} {path : String} (hpath : o.objectPath = .ok path) :
    Call.activate.Carries o (activationDocument path o.name) := by
  rw [Call.Carries, Call.request, hpath]
  exact ⟨_, rfl, rfl⟩

theorem carries_delete {o : ObjectRef} {path : String} (hpath : o.objectPath = .ok path)
    (handle : Option String) : (Call.delete handle).Carries o (deletionDocument path) := by
  rw [Call.Carries, Call.request, hpath]
  cases handle <;> exact ⟨_, rfl, rfl⟩

/-- **Requests carry what they are given.** Escaped text has no character that ends a tag or an
attribute, and is read back. So the documents for an object that has an address carry this address,
its name and every source as they are, and no source adds anything else to a check. -/
theorem Call.documents_carry :
    (∀ s, IsPlainMarkup (escapeMarkup s) ∧ unescape (escapeMarkup s) = s) ∧
    ∀ (o : ObjectRef) (path : String), o.objectPath = .ok path →
      (∃ sourcePath, o.sourcePath = .ok sourcePath ∧
        ∀ version payload, ∃ document, (Call.check version payload).Carries o document ∧
          ChecksObject path sourcePath payload document) ∧
      (∃ document, Call.activate.Carries o document ∧
        attributeTexts "adtcore:uri" document = [path] ∧
        attributeTexts "adtcore:name" document = [o.name]) ∧
      ∀ handle, ∃ document, (Call.delete handle).Carries o document ∧
        attributeTexts "adtcore:uri" document = [path] := by
  refine ⟨fun s => ⟨isPlainMarkup_escapeMarkup s, unescape_escapeMarkup s⟩, ?_⟩
  intro o path hpath
  refine ⟨?check, ?activation, ?deletion⟩
  case check =>
    obtain ⟨sourcePath, hsource⟩ := sourcePath_of_objectPath hpath
    refine ⟨sourcePath, hsource, fun version payload => ?_⟩
    exact ⟨_, carries_check hpath hsource version payload,
      checksObject_checkDocument path sourcePath version payload⟩
  case activation =>
    refine ⟨_, carries_activate hpath, ?_, ?_⟩
    all_goals
      rw [attributeTexts, tokens_activationDocument]
      simp [activationTokens, headTokens, unescape_escapeMarkup]
  case deletion =>
    intro handle
    refine ⟨_, carries_delete hpath handle, ?_⟩
    rw [attributeTexts, tokens_deletionDocument]
    simp [deletionTokens, headTokens, unescape_escapeMarkup]

/-- A function module whose names are full of what means something in markup. -/
def awkward : ObjectRef :=
  (ObjectRef.make .functionModule "z\"&lt;'").withSubKey (some "<z>")

/-- The source of a check for it ends no element, and its address and its name end no attribute. -/
theorem Call.awkward_documents :
    awkward.objectPath = .ok "/sap/bc/adt/functions/groups/<z>/fmodules/z\"&lt;'" ∧
    (∃ document, (Call.check .inactive (some "</chkrun:content>&amp;")).Carries awkward document ∧
      tags document = checkTags true ∧
      textAfter? contentTag document = some "</chkrun:content>&amp;") ∧
    ∃ document, Call.activate.Carries awkward document ∧
      attributeTexts "adtcore:uri" document =
        ["/sap/bc/adt/functions/groups/<z>/fmodules/z\"&lt;'"] ∧
      attributeTexts "adtcore:name" document = ["Z\"&LT;'"] := by
  have haddress : awkward.objectPath =
      .ok "/sap/bc/adt/functions/groups/<z>/fmodules/z\"&lt;'" := by
    decide +kernel
  have hname : awkward.name = "Z\"&LT;'" := by decide +kernel
  obtain ⟨⟨_, -, hcheck⟩, ⟨document, hcarries, huri, hnamed⟩, -⟩ :=
    Call.documents_carry.2 awkward _ haddress
  obtain ⟨document', hcarries', hchecks⟩ := hcheck .inactive (some "</chkrun:content>&amp;")
  rw [hname] at hnamed
  exact ⟨haddress, ⟨document', hcarries', hchecks.tags, hchecks.content⟩,
    document, hcarries, huri, hnamed⟩

end EditLock
