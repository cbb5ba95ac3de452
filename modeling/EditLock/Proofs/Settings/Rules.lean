/-
# Settings that are used

Settings are checked once, when they are read. What changes them later has to keep the rules by
itself: the options of a command line, which name other directories and another age, and the
environment, which fills in what the file leaves open. All of them do, but for one: an address that
the environment gives is taken as it is. A run that looks after the bookkeeping thus works with
settings that keep the rules, and a run that edits objects does so just if the environment had no
stray address to fill in. Whatever the file sets is kept unless an option replaces it.

Key definitions: `Settings.KeepsRules`, `Settings.Keeps`, `Settings.TakesStray`,
`EditRequest.connect`, `Machine.SettingsUsed`.
Key theorems: `Settings.check_eq_ok_iff`, `EditRequest.open_eq_connect`,
`Machine.settings_used`, `Machine.stray_address_used`.
-/
import Mathlib.Tactic.ByContra
import Mathlib.Tactic.SplitIfs
import EditLock.Command.Edit
import EditLock.Command.Upkeep

namespace EditLock

/-! ### Rules -/

namespace Settings

/-- The rules for settings. -/
structure KeepsRules (s : Settings) : Prop where
  /-- The address, if there is one, starts as that of a server does. -/
  address : ∀ url ∈ s.baseUrl, isServerAddress url = true
  request_pos : 0 < s.requestSeconds
  stale_pos : 0 < s.storage.staleAfterSeconds

/-- What a file sets is kept, except where an option replaces it. -/
structure Keeps (file : Settings) (options : StorageOptions) (staleAfter : Option Nat)
    (s : Settings) : Prop where
  baseUrl : ∀ url ∈ file.baseUrl, s.baseUrl = some url
  client : ∀ client ∈ file.client, s.client = some client
  language : s.language = file.language
  requestSeconds : s.requestSeconds = file.requestSeconds
  chain : s.chain = file.chain
  sessionDir : s.storage.sessionDir = options.sessionDir.or file.storage.sessionDir
  lockDir : s.storage.lockDir = options.lockDir.or file.storage.lockDir
  staleAfterSeconds : s.storage.staleAfterSeconds =
    staleAfter.getD file.storage.staleAfterSeconds

/-- The file leaves the address open, and the one in the environment is not that of a server. -/
def TakesStray (file : Settings) (env : Environment) : Prop :=
  file.baseUrl = none ∧ ∃ url ∈ Environment.nonEmpty env.baseUrl, isServerAddress url = false

variable {s t file : Settings} {files : FileTree} {options : StorageOptions}

/-- **Just settings that keep the rules pass the check**, and they pass it as they are. -/
theorem check_eq_ok_iff : s.check = .ok t ↔ t = s ∧ s.KeepsRules := by
  have hstray : (∃ url, (s.baseUrl.filter fun url => !isServerAddress url) = some url) ↔
      ¬ ∀ url ∈ s.baseUrl, isServerAddress url = true := by
    simp [Option.filter_eq_some_iff]
  unfold check
  constructor
  · intro h
    split at h
    · cases h
    · rename_i hnone
      split_ifs at h with hrequest hstale
      obtain rfl := Except.ok.inj h
      refine ⟨rfl, ?_, Nat.pos_of_ne_zero hrequest, Nat.pos_of_ne_zero hstale⟩
      by_contra hurl
      obtain ⟨url, hurl⟩ := hstray.2 hurl
      rw [hnone] at hurl
      cases hurl
  · rintro ⟨rfl, hrules⟩
    split
    · rename_i url hurl
      exact absurd hrules.address (hstray.1 ⟨url, hurl⟩)
    · rw [if_neg (Nat.ne_of_gt hrules.request_pos), if_neg (Nat.ne_of_gt hrules.stale_pos)]

theorem keepsRules_default : KeepsRules {} :=
  ⟨nofun, by decide, by decide⟩

/-- Settings that were read keep the rules. -/
theorem keepsRules_of_read {text : String} (h : read text = .ok s) : s.KeepsRules := by
  unfold read at h
  split at h
  · cases h
  · obtain ⟨rfl, hrules⟩ := check_eq_ok_iff.1 h
    exact hrules

/-- Settings of a file keep the rules, and so do the default ones. -/
theorem keepsRules_of_storage (h : options.read files = .ok s) : s.KeepsRules := by
  unfold StorageOptions.read at h
  split at h
  · obtain rfl := Except.ok.inj h
    exact keepsRules_default
  · unfold ofFile at h
    split at h
    · cases h
    · exact keepsRules_of_read h

/-! ### What is changed later -/

theorem keeps_complete (options : StorageOptions) (file : Settings) (env : Environment) :
    file.Keeps options none (options.override (file.complete env)) where
  baseUrl url hurl := by
    have hfile : file.baseUrl = some url := hurl
    simp [StorageOptions.override, complete, hfile]
  client client hclient := by
    have hfile : file.client = some client := hclient
    simp [StorageOptions.override, complete, hfile]
  language := rfl
  requestSeconds := rfl
  chain := rfl
  sessionDir := rfl
  lockDir := rfl
  staleAfterSeconds := rfl

/-- **The environment breaks a rule just by a stray address.** -/
theorem keepsRules_complete_iff (h : file.KeepsRules) (env : Environment) :
    (options.override (file.complete env)).KeepsRules ↔ ¬ file.TakesStray env := by
  have hurl : (options.override (file.complete env)).baseUrl =
      file.baseUrl.or (Environment.nonEmpty env.baseUrl) := rfl
  constructor
  · rintro hrules ⟨hopen, url, hstray, hno⟩
    have haddress := hrules.address url (by rw [hurl, hopen]; exact hstray)
    rw [hno] at haddress
    cases haddress
  · intro hstray
    refine ⟨fun url hused => ?_, h.request_pos, h.stale_pos⟩
    rw [hurl] at hused
    cases hfile : file.baseUrl with
    | some given =>
      rw [hfile] at hused
      exact h.address url (hfile.trans hused)
    | none =>
      rw [hfile] at hused
      by_contra hno
      exact hstray ⟨hfile, url, hused, Bool.eq_false_iff.2 hno⟩

theorem withStaleAfter_ok {staleAfter : Option Nat}
    (h : UpkeepRequest.withStaleAfter staleAfter (options.override file) = .ok s) :
    file.Keeps options staleAfter s ∧ (file.KeepsRules → s.KeepsRules) := by
  unfold UpkeepRequest.withStaleAfter at h
  split at h
  · obtain rfl := Except.ok.inj h
    exact ⟨⟨fun _ => id, fun _ => id, rfl, rfl, rfl, rfl, rfl, rfl⟩, fun h => ⟨h.1, h.2, h.3⟩⟩
  · cases h
  · rename_i n hn
    obtain rfl := Except.ok.inj h
    exact ⟨⟨fun _ => id, fun _ => id, rfl, rfl, rfl, rfl, rfl, rfl⟩,
      fun h => ⟨h.1, h.2, Nat.pos_of_ne_zero hn⟩⟩

end Settings

/-! ### Runs -/

namespace Run

variable {α β : Type} {act : Run α} {f : α → Run β} {Q : β → Prop} {m left : Machine} {a : α}

/-- Whenever it gives something, then something of this kind. -/
def Gives (act : Run α) (Q : α → Prop) : Prop :=
  ∀ (m : Machine) (a : α) (left : Machine), act.run.run m = (.ok a, left) → Q a

theorem gives_pure {b : β} (h : Q b) : Gives (pure b) Q := by
  intro m a left hrun
  cases hrun
  exact h

theorem run_bind (act : Run α) (f : α → Run β) (m : Machine) :
    (act >>= f).run.run m =
      match act.run.run m with
      | (.ok a, m') => (f a).run.run m'
      | (.error e, m') => (.error e, m') := by
  rw [ExceptT.run_bind, StateT.run_bind]
  obtain ⟨result, m'⟩ := act.run.run m
  cases result <;> rfl

/-- What comes last tells what is given. -/
theorem gives_bind (h : ∀ a, (f a).Gives Q) : Gives (act >>= f) Q := by
  intro m b left hrun
  rw [run_bind] at hrun
  split at hrun
  · exact h _ _ _ _ hrun
  · cases hrun

/-- What goes on with an outcome needs that there is one. -/
theorem exists_of_ofExcept_bind {result : Except Failure α} {b : β}
    (h : (ofExcept result >>= f).run.run m = (.ok b, left)) :
    ∃ a, result = .ok a ∧ (f a).run.run m = (.ok b, left) := by
  cases result with
  | error e => cases h
  | ok a => exact ⟨a, rfl, h⟩

theorem gives_ofExcept_bind {result : Except Failure α}
    (h : ∀ a, result = .ok a → (f a).Gives Q) : Gives (ofExcept result >>= f) Q := by
  intro m b left hrun
  obtain ⟨a, ha, hrun⟩ := exists_of_ofExcept_bind hrun
  exact h a ha _ _ _ hrun

end Run

namespace EditRequest

/-- What a run has when it is connected. -/
structure Connected where
  settings : Settings
  sessionId : String
  session : Session
  store : SessionStore
  registry : OpenRegistry
  link : Link

/-- Opens what is needed up to the link to the server. -/
def connect (q : EditRequest) (o : Occasion) : Run Connected := do
  let settings ← Run.ofExcept (q.settings o.environment (← get).files)
  let _ ← Run.ofExcept settings.requireBaseUrl
  let credentials ← Run.ofExcept (Credentials.load o.environment)
  let sessionId := q.session.getD o.freshId
  let store ← Run.store (settings.sessionDir o.environment)
  let (result, store) := store.openOrCreate sessionId o.now o.pid
  Run.putStore store
  let session ← Run.ofExcept result
  let registry ← Run.openRegistry (settings.lockDir o.environment)
    (settings.lockDbPath o.environment)
  let link ← Run.ofExcept (Link.ofSettings settings credentials)
  return { settings, sessionId, session, store, registry, link }

/-- A run connects, and then reads the files that its command needs. -/
theorem open_eq_connect (q : EditRequest) (o : Occasion) : q.open o = do
    let c ← q.connect o
    let material ← readMaterial q.command
    return { c with material } := by
  unfold EditRequest.open connect
  simp only [bind_assoc, pure_bind]

variable {q : EditRequest} {o : Occasion} {m left : Machine} {c : Connected} {x : Opened}

theorem exists_connect_of_open (h : (q.open o).run.run m = (.ok x, left)) :
    ∃ c m', (q.connect o).run.run m = (.ok c, m') ∧ x.settings = c.settings ∧ x.link = c.link := by
  rw [open_eq_connect, Run.run_bind] at h
  split at h
  · rename_i c m' hconnect
    refine ⟨c, m', hconnect, ?_⟩
    refine Run.gives_bind (Q := fun x => x.settings = c.settings ∧ x.link = c.link) ?_ _ _ _ h
    exact fun _ => Run.gives_pure ⟨rfl, rfl⟩
  · cases h

/-- The settings are those of which the link is made. -/
def Connected.IsLinked (c : Connected) : Prop :=
  ∃ credentials, Link.ofSettings c.settings credentials = .ok c.link

theorem settings_eq_ok {env : Environment} {files : FileTree} {s : Settings}
    (h : q.settings env files = .ok s) : ∃ file, q.storage.read files = .ok file ∧
      s = q.storage.override (file.complete env) := by
  unfold settings at h
  cases hfile : q.storage.read files with
  | error e =>
    rw [hfile] at h
    cases h
  | ok file =>
    rw [hfile] at h
    exact ⟨file, rfl, (Except.ok.inj h).symm⟩

/-- A run that is connected uses the settings of the file, with what was added to them. -/
theorem settings_of_connect (h : (q.connect o).run.run m = (.ok c, left)) :
    c.IsLinked ∧ ∃ file, q.storage.read m.files = .ok file ∧
      c.settings = q.storage.override (file.complete o.environment) := by
  obtain ⟨settings, hsettings, h⟩ := Run.exists_of_ofExcept_bind h
  have hmade : c.settings = settings ∧ c.IsLinked := by
    refine Run.gives_bind (Q := fun c => c.settings = settings ∧ c.IsLinked) (fun _ => ?_) _ _ _ h
    refine Run.gives_bind fun credentials => Run.gives_bind fun _ => ?_
    refine Run.gives_bind fun _ => Run.gives_bind fun _ => Run.gives_bind fun _ => ?_
    exact Run.gives_ofExcept_bind fun link hlink => Run.gives_pure ⟨rfl, credentials, hlink⟩
  obtain ⟨file, hfile, hcomplete⟩ := settings_eq_ok hsettings
  exact ⟨hmade.2, file, hfile, hmade.1.trans hcomplete⟩

end EditRequest

namespace UpkeepRequest

variable {q : UpkeepRequest} {o : Occasion} {m left : Machine} {opened : Opened}

theorem settings_eq_ok {files : FileTree} {s : Settings} (h : q.settings files = .ok s) :
    ∃ file, q.storage.read files = .ok file ∧
      withStaleAfter q.staleAfterSeconds (q.storage.override file) = .ok s := by
  unfold settings at h
  cases hfile : q.storage.read files with
  | error e =>
    rw [hfile] at h
    cases h
  | ok file =>
    rw [hfile] at h
    exact ⟨file, rfl, h⟩

/-- A run that has opened all it needs uses the settings of the file, with what was replaced. -/
theorem settings_of_open (h : (q.open o).run.run m = (.ok opened, left)) :
    ∃ file, q.storage.read m.files = .ok file ∧
      withStaleAfter q.staleAfterSeconds (q.storage.override file) = .ok opened.settings := by
  obtain ⟨settings, hsettings, h⟩ := Run.exists_of_ofExcept_bind h
  have hsame : opened.settings = settings := by
    refine Run.gives_bind (Q := fun c => c.settings = settings) (fun _ => ?_) _ _ _ h
    exact Run.gives_bind fun _ => Run.gives_pure rfl
  rw [hsame]
  exact settings_eq_ok hsettings

end UpkeepRequest

namespace Machine

/-- What is known of the settings that runs use on a machine. -/
structure SettingsUsed (o : Occasion) (m : Machine) : Prop where
  /-- A run that is connected keeps what the file sets, and the rules just if the environment had
  no stray address to fill in. -/
  connected : ∀ (q : EditRequest) (c : EditRequest.Connected) (left : Machine),
    (q.connect o).run.run m = (.ok c, left) →
      c.IsLinked ∧ ∃ file, q.storage.read m.files = .ok file ∧
        file.Keeps q.storage none c.settings ∧
        (c.settings.KeepsRules ↔ ¬ file.TakesStray o.environment)
  /-- All rules but that for the address are kept in any case. -/
  positive : ∀ (q : EditRequest) (c : EditRequest.Connected) (left : Machine),
    (q.connect o).run.run m = (.ok c, left) →
      0 < c.settings.requestSeconds ∧ 0 < c.settings.storage.staleAfterSeconds
  /-- A run that serves an edit request is connected before, and uses these settings and that
  link. -/
  served : ∀ (q : EditRequest) (x : EditRequest.Opened) (left : Machine),
    (q.open o).run.run m = (.ok x, left) →
      ∃ c m', (q.connect o).run.run m = (.ok c, m') ∧ x.settings = c.settings ∧ x.link = c.link
  /-- A run that has opened what it is to sweep keeps what the file sets, and the rules. -/
  opened : ∀ (q : UpkeepRequest) (b : UpkeepRequest.Opened) (left : Machine),
    (q.open o).run.run m = (.ok b, left) →
      ∃ file, q.storage.read m.files = .ok file ∧
        file.Keeps q.storage q.staleAfterSeconds b.settings ∧ b.settings.KeepsRules

/-- **Settings that are used keep what the file sets, and the rules**, except for an address that
only the environment gives. -/
theorem settings_used (o : Occasion) (m : Machine) : SettingsUsed o m where
  connected q c left h := by
    obtain ⟨hlinked, file, hfile, hsettings⟩ := EditRequest.settings_of_connect h
    refine ⟨hlinked, file, hfile, ?_, ?_⟩
    · rw [hsettings]
      exact Settings.keeps_complete _ _ _
    · rw [hsettings]
      exact Settings.keepsRules_complete_iff (Settings.keepsRules_of_storage hfile) _
  positive q c left h := by
    obtain ⟨-, file, hfile, hsettings⟩ := EditRequest.settings_of_connect h
    have hrules := Settings.keepsRules_of_storage hfile
    rw [hsettings]
    exact ⟨hrules.request_pos, hrules.stale_pos⟩
  served q x left h := EditRequest.exists_connect_of_open h
  opened q b left h := by
    obtain ⟨file, hfile, hsettings⟩ := UpkeepRequest.settings_of_open h
    obtain ⟨hkeeps, hrules⟩ := Settings.withStaleAfter_ok hsettings
    exact ⟨file, hfile, hkeeps, hrules (Settings.keepsRules_of_storage hfile)⟩

end Machine

/-! ### A stray address -/

namespace Stray

/-- An environment with an address that is not that of a server. -/
def occasion : Occasion where
  environment := { baseUrl := some "ftp://dev.example.com", token := some "tok" }
  now := ⟨1700000000, 0⟩
  pid := 7
  probe _ := .inconclusive
  freshId := "s2"

/-- To release whatever is known of an object's lock. -/
def request : EditRequest where
  session := some "s1"
  object := (ObjectRef.make .objectClass "zcl_test").withSubKey none
  command := .forceUnlock

theorem connects : ((request.connect occasion).run.run {}).1.isOk = true := by
  decide +kernel

/-- No file sets an address, so that the one in the environment is taken. -/
theorem takesStray {file : Settings} (h : request.storage.read ({} : Machine).files = .ok file) :
    file.TakesStray occasion.environment := by
  obtain rfl := Except.ok.inj h
  exact ⟨rfl, "ftp://dev.example.com", by decide +kernel, by decide +kernel⟩

end Stray

open Stray in
/-- A run that connects with settings that break the rules, and ends as if nothing were wrong. -/
theorem Machine.stray_address_used :
    (∃ c left, (request.connect occasion).run.run {} = (.ok c, left) ∧ ¬ c.settings.KeepsRules) ∧
      (runEdit "0.1.0" ["--session", "s1", "force-unlock", "class", "zcl_test"]
        ({ respond := fun _ s => (.silence, s) } : Server Unit) occasion {} ()).1 =
          { out := ["no lock known for class:ZCL_TEST"] } := by
  refine ⟨?_, by decide +kernel⟩
  have hok := connects
  cases hrun : (request.connect occasion).run.run {} with
  | mk result left =>
    rw [hrun] at hok
    cases result with
    | error e => cases hok
    | ok c =>
      obtain ⟨-, file, hfile, -, hrules⟩ := (settings_used occasion {}).connected request c left hrun
      exact ⟨c, left, rfl, fun hkeeps => hrules.1 hkeeps (takesStray hfile)⟩

end EditLock
