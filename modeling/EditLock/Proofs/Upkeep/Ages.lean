/-
# Ages from which entries are stale

An age in seconds is accepted if a settings file sets it or a command line names it, and is then
greater than zero. What a run makes of it is a threshold in nanoseconds. A span of time has its
milliseconds counted in 64 bits, though, and a greater age has none: such an age is accepted, and
then every run with it breaks off. Up to that limit ages work: the threshold is the age, it is
positive, and of two ages the greater one never removes more.

Key definitions: `Settings.AcceptsAge`, `Settings.sweeper?`, `Settings.AgeWorks`.
Key theorems: `Settings.AcceptsAge.pos`, `Settings.acceptsAge_of_pos`,
`UpkeepRequest.run_eq_brokenOff_iff`, `Settings.ageWorks_iff`, `Settings.greatest_age_breaks_off`.
-/
import EditLock.Proofs.Json.Word
import EditLock.Proofs.Settings.Rules
import EditLock.Proofs.Sweep.Nested

namespace EditLock

/-! ### Accepted ages -/

namespace UpkeepRequest

/-- The slot for an age on the command line. -/
def ageSlot : Slot :=
  .count "stale-after-seconds" "Override the staleness threshold in seconds"

/-- The words of a command line that names an age and lists the locks. -/
def ageWords (word : String) : Words :=
  { commands := ["locks", "list"], values := [("stale-after-seconds", word)] }

theorem readOption_age : level.readOption [program] {} "--stale-after-seconds" =
    .ok ({}, some ageSlot) := by
  have hsplit : Level.splitOption? "--stale-after-seconds" = some ("stale-after-seconds", none) := by
    decide +kernel
  unfold Level.readOption
  rw [hsplit]
  with_unfolding_all rfl

theorem readFrom_age {word : String} (hplain : Level.isPlain word = true)
    (hcount : (Slot.count? word).isSome = true) (rest : List String) :
    level.readFrom program none {} ("--stale-after-seconds" :: word :: rest) =
      level.readFrom program none (({} : Words).withValue "stale-after-seconds" word) rest := by
  have hoption : Level.isPlain "--stale-after-seconds" = false := by decide +kernel
  have hadmits : ageSlot.admits word = true := hcount
  have hread := readOption_age
  rw [Level.readFrom, hoption, Bool.not_false, if_pos rfl, if_neg (by decide)]
  dsimp only
  rw [hread]
  dsimp only
  rw [Level.readFrom, hplain, hadmits]
  rfl

/-- A command line that names an age. -/
theorem read_age {word : String} {n : Nat} (hplain : Level.isPlain word = true)
    (hcount : Slot.count? word = some n) :
    read ["--stale-after-seconds", word, "locks", "list"] =
      .ok { staleAfterSeconds := some n, command := .listLocks } := by
  have hsome : (Slot.count? word).isSome = true := by rw [hcount]; rfl
  have hrest : level.readFrom program none (({} : Words).withValue "stale-after-seconds" word)
      ["locks", "list"] = .ok (ageWords word) := by
    with_unfolding_all rfl
  have hwords : ofWords? (ageWords word) =
      some { staleAfterSeconds := Slot.count? word, command := .listLocks } := by
    with_unfolding_all rfl
  unfold read Level.read
  rw [readFrom_age hplain hsome, hrest]
  dsimp only [bind, Except.bind]
  rw [hwords, hcount]

end UpkeepRequest

namespace Slot

theorem toList_toString (n : Nat) : (toString n).toList = Nat.toDigits 10 n := by
  rw [Nat.toString_eq_repr, Nat.toList_repr]

/-- A number is written in digits and read back. -/
theorem count?_toString {n : Nat} (h : n ≤ maxCount) : count? (toString n) = some n := by
  have hvalue : (Nat.toDigits 10 n).foldl (fun n d => n * 10 + (d.toNat - '0'.toNat)) 0 = n :=
    Json.digitsValue_toDigits n
  have hdigits : (Nat.toDigits 10 n).all Char.isDigit = true :=
    List.all_eq_true.2 fun _ hc => Json.isDigit_of_mem_toDigits hc
  obtain ⟨c, cs, hcs, hc⟩ := Json.exists_toDigits n
  have hsign : c ≠ '+' := by
    rintro rfl
    cases hc
  unfold count?
  rw [toList_toString]
  rw [hcs] at hdigits hvalue ⊢
  split
  · rename_i hplus
    exact absurd (List.head_eq_of_cons_eq hplus) hsign
  · simp only [hdigits, hvalue, h, List.isEmpty_cons, Bool.not_true, Bool.or_false,
      Bool.false_eq_true, if_true, if_false]

theorem isPlain_toString (n : Nat) : Level.isPlain (toString n) = true := by
  have hstart : (toString n).startsWith "-" = false := by
    obtain ⟨c, cs, hcs, hc⟩ := Json.exists_toDigits n
    rw [String.startsWith_string_eq_false_iff, toList_toString, hcs]
    intro hsign
    obtain rfl : '-' = c := (List.cons_prefix_cons.1 hsign).1
    cases hc
  rw [Level.isPlain, hstart, Bool.not_false, Bool.or_true]

end Slot

namespace Settings

/-- The age in seconds is one that can be set, in a settings file or on a command line. -/
inductive AcceptsAge : Nat → Prop
  | file {text : String} {s : Settings} (read : Settings.read text = .ok s) :
      AcceptsAge s.storage.staleAfterSeconds
  | option {args : List String} {q : UpkeepRequest} {n : Nat} {files : FileTree} {s : Settings}
      (read : UpkeepRequest.read args = .ok q) (given : q.staleAfterSeconds = some n)
      (used : q.settings files = .ok s) : AcceptsAge n

variable {n : Nat}

/-- **An accepted age is greater than zero.** -/
theorem AcceptsAge.pos (h : AcceptsAge n) : 0 < n := by
  cases h with
  | file read => exact (keepsRules_of_read read).stale_pos
  | option _ given used =>
    obtain ⟨file, hfile, hreplaced⟩ := UpkeepRequest.settings_eq_ok used
    obtain ⟨hkeeps, hrules⟩ := withStaleAfter_ok hreplaced
    have hage := hkeeps.staleAfterSeconds
    rw [given, Option.getD_some] at hage
    rw [← hage]
    exact (hrules (keepsRules_of_storage hfile)).stale_pos

/-- **Every age is accepted** that is greater than zero and fits in 64 bits. -/
theorem acceptsAge_of_pos (h : 0 < n) (hle : n ≤ Slot.maxCount) : AcceptsAge n := by
  have hread := UpkeepRequest.read_age (Slot.isPlain_toString n) (Slot.count?_toString hle)
  obtain ⟨m, rfl⟩ : ∃ m, n = m + 1 := ⟨n - 1, by omega⟩
  have hused : UpkeepRequest.settings { staleAfterSeconds := some (m + 1), command := .listLocks }
      {} = .ok { storage := { staleAfterSeconds := m + 1 } } :=
    rfl
  exact .option hread rfl hused

/-! ### What a run makes of an age -/

/-- The sweeper that settings make on an occasion, if their age is a span of time. -/
def sweeper? (s : Settings) (o : Occasion) : Option Sweeper :=
  s.staleAfter?.map fun seconds =>
    { staleAfter := (seconds : Int) * 1000000000, probe := o.probe, now := o.now }

variable {s t : Settings} {o : Occasion}

theorem sweeper?_of_le (h : s.storage.staleAfterSeconds ≤ maxSpanSeconds) (o : Occasion) :
    s.sweeper? o = some
      { staleAfter := (s.storage.staleAfterSeconds : Int) * 1000000000, probe := o.probe
        now := o.now } := by
  rw [sweeper?, staleAfter?, if_pos h]
  rfl

theorem sweeper?_isSome_iff (s : Settings) (o : Occasion) :
    (s.sweeper? o).isSome = true ↔ s.storage.staleAfterSeconds ≤ maxSpanSeconds := by
  unfold sweeper? staleAfter?
  split_ifs with h
  · exact ⟨fun _ => h, fun _ => rfl⟩
  · exact ⟨nofun, fun hle => absurd hle h⟩

end Settings

namespace UpkeepRequest

variable {q : UpkeepRequest} {o : Occasion} {m left : Machine} {opened : Opened}

/-- A run that has opened all it needs goes on with the sweeper that its settings make, or breaks
off if they make none. -/
theorem run_of_open (hopen : (q.open o).run.run m = (.ok opened, left)) :
    q.run o m =
      match opened.settings.sweeper? o with
      | none => (.brokenOff, left)
      | some w =>
        let done := q.command.perform w ⟨opened.store, opened.registry.registry⟩
        let registry := { opened.registry with registry := done.2.registry }
        (report done.1, ((Run.close done.2.store registry).run.run left).2) := by
  unfold run Settings.sweeper?
  rw [hopen]
  dsimp only
  cases opened.settings.staleAfter? <;> rfl

/-- **A run breaks off just if its age is no span of time.** -/
theorem run_eq_brokenOff_iff (hopen : (q.open o).run.run m = (.ok opened, left)) :
    (q.run o m).1 = .brokenOff ↔
      Settings.maxSpanSeconds < opened.settings.storage.staleAfterSeconds := by
  have hsome := opened.settings.sweeper?_isSome_iff o
  rw [run_of_open hopen]
  cases hw : opened.settings.sweeper? o with
  | none =>
    rw [hw] at hsome
    exact ⟨fun _ => not_le.1 fun hle => absurd (hsome.2 hle) Bool.false_ne_true, fun _ => rfl⟩
  | some w =>
    rw [hw] at hsome
    have hle := hsome.1 rfl
    refine ⟨fun hreport => ?_, fun hlt => absurd hle (not_le.2 hlt)⟩
    have hstatus := congrArg Report.status hreport
    dsimp only at hstatus
    cases hdone : (q.command.perform w ⟨opened.store, opened.registry.registry⟩).1 with
    | error e =>
      rw [hdone] at hstatus
      cases hstatus
    | ok lines =>
      rw [hdone] at hstatus
      cases hstatus

end UpkeepRequest

namespace Settings

/-- An occasion with an empty environment. -/
def bareOccasion : Occasion where
  environment := {}
  now := ⟨1700000000, 0⟩
  pid := 7
  probe _ := .alive
  freshId := "s1"

/-- The age works: settings with it make a sweeper. -/
structure AgeWorks (b : Nat) : Prop where
  /-- The threshold is positive, and it is the age itself as far as ages are spans of time. -/
  yields : ∀ (s : Settings) (o : Occasion), s.storage.staleAfterSeconds = b →
    ∃ w, s.sweeper? o = some w ∧ 0 < w.staleAfter ∧
      w.staleAfter = (min b maxSpanSeconds : Nat) * 1000000000
  /-- No command breaks off. -/
  ends : ∀ (q : UpkeepRequest) (o : Occasion) (m left : Machine) (opened : UpkeepRequest.Opened),
    (q.open o).run.run m = (.ok opened, left) → opened.settings.storage.staleAfterSeconds = b →
      (q.run o m).1 ≠ .brokenOff
  /-- Any smaller age makes a sweeper as well, with a threshold that is not longer, and what is
  removed with the one age is removed with the smaller one. -/
  nested : ∀ a ≤ b, AcceptsAge a → ∀ (s t : Settings) (o : Occasion) (w' : Sweeper),
    s.storage.staleAfterSeconds = a → t.storage.staleAfterSeconds = b → t.sweeper? o = some w' →
      ∃ w, s.sweeper? o = some w ∧ 0 < w.staleAfter ∧ w.staleAfter ≤ w'.staleAfter ∧
        w.SweepsMore w'

/-- **An accepted age works just if it is a span of time.** -/
theorem ageWorks_iff {b : Nat} (accepted : AcceptsAge b) : AgeWorks b ↔ b ≤ maxSpanSeconds := by
  constructor
  · intro hworks
    obtain ⟨w, hw, -⟩ :=
      hworks.yields { storage := { staleAfterSeconds := b } } bareOccasion rfl
    exact (sweeper?_isSome_iff _ bareOccasion).1 (by rw [hw]; rfl)
  · intro hle
    have hpos := accepted.pos
    constructor
    case yields =>
      rintro s o rfl
      refine ⟨_, sweeper?_of_le hle o, by dsimp only; omega, ?_⟩
      rw [min_eq_left hle]
    case ends =>
      intro q o m left opened hopen hage hbroken
      have hlt := (UpkeepRequest.run_eq_brokenOff_iff hopen).1 hbroken
      omega
    case nested =>
      rintro a hab ha s t o w' rfl rfl hw'
      have hapos := ha.pos
      obtain rfl := Option.some.inj ((sweeper?_of_le hle o).symm.trans hw')
      have hmono : (s.storage.staleAfterSeconds : Int) * 1000000000 ≤
          (t.storage.staleAfterSeconds : Int) * 1000000000 := by omega
      refine ⟨_, sweeper?_of_le (hab.trans hle) o, by dsimp only; omega, hmono, ?_⟩
      exact Sweeper.sweepsMore_of_le rfl hmono

/-- The greatest age of all is accepted, but no run with it comes to an end; half an hour works. -/
theorem greatest_age_breaks_off :
    AcceptsAge 18446744073709551615 ∧ ¬ AgeWorks 18446744073709551615 ∧
      (runUpkeep "0.1.0" ["--stale-after-seconds", "18446744073709551615", "locks", "list"]
        bareOccasion {}).1 = .brokenOff ∧
      AcceptsAge 1800 ∧ AgeWorks 1800 := by
  have hgreatest : AcceptsAge 18446744073709551615 :=
    acceptsAge_of_pos (by decide) (by decide +kernel)
  have hhour : AcceptsAge 1800 := acceptsAge_of_pos (by decide) (by decide +kernel)
  refine ⟨hgreatest, fun hworks => ?_, by decide +kernel, hhour,
    (ageWorks_iff hhour).2 (by decide +kernel)⟩
  have hle := (ageWorks_iff hgreatest).1 hworks
  exact absurd hle (by decide +kernel)

end Settings

end EditLock
