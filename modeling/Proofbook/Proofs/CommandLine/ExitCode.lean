import Proofbook.Proofs.CommandLine.Script
import Proofbook.Proofs.Session.Proven

namespace Proofbook

namespace Session

variable {config : Config} {calls : List (Nat × Invocation)}

theorem Sound.name {s : Session} (sound : s.Sound) {t : Theorem} {name : String}
    (found : s.theorem? name = some t) : t.name = name := by
  obtain ⟨r, present, got⟩ := Option.bind_eq_some_iff.mp found
  exact ((sound r present).theorems.get?_eq_some_iff.mp got).2

theorem accounts_of_definition {new : Theorem} {since : List Turn}
    (definition : DefinedIn ((init { config }).history calls) new since) :
    ∃ t, ((init { config }).run calls).1.theorem? new.name = some t ∧ Accounts new since t := by
  refine ⟨_, find_defined (sound_init config) definition, ?_⟩
  obtain ⟨before, turn, split, defined, -⟩ := definition
  refine accounts_foldl (Turn.new_of_definition defined) fun u mem => ?_
  exact checked_history (init { config }) calls u (by simp [split, mem])

theorem definition_of_theorem {t : Theorem} {name : String}
    (found : ((init { config }).run calls).1.theorem? name = some t) :
    ∃ new since, DefinedIn ((init { config }).history calls) new since ∧
      Accounts new since t := by
  rcases origin_of_find (sound_init config) found with
    ⟨new, since, definition, rfl, rfl⟩ | ⟨old, was, -, -⟩
  · obtain ⟨u, there, accounts⟩ := accounts_of_definition definition
    obtain rfl := Option.some.inj (there.symm.trans found)
    exact ⟨new, since, definition, accounts⟩
  · cases was

theorem perform_keeps {s : Session} (sound : s.Sound) {time : Nat} {invocation : Invocation}
    {name : String} {t : Theorem} (found : s.theorem? name = some t)
    (noReset : (Turn.mk time invocation (s.perform time invocation).2).isReset = false) :
    ∃ t', (s.perform time invocation).1.theorem? name = some t' ∧
      (t.isProven = true → t'.isProven = true) ∧
      ((Turn.mk time invocation (s.perform time invocation).2).provenWith? name = none →
        t'.proof = t.proof) := by
  refine ⟨_, find_kept sound found noReset, ?_, ?_⟩
  · intro proven
    rw [Theorem.isProven_after]
    exact .inl proven
  · intro other
    apply Theorem.proof_after_other
    rwa [sound.name found]

end Session

namespace CommandLine

/-- The theorem was proven by a turn since its definition, by steps or by what it states. -/
def ProvenBy (since : List Turn) (new : Theorem) : Prop :=
  (∃ turn ∈ since, (turn.provenWith? new.name).isSome = true) ∨
    (∃ turn ∈ since, turn.verifies new.name = true) ∧
      ∃ c, new.conclusion = some c ∧ Formula.entails new.hypotheses c = true

theorem isProven_iff_provenBy {new t : Theorem} {since : List Turn}
    (accounts : Accounts new since t) : t.isProven = true ↔ ProvenBy since new := by
  rw [accounts.proven, accounts.attached, accounts.name, accounts.conclusion, accounts.hypotheses]
  rfl

variable (options : Options) (calls : List (Nat × Invocation))

theorem mem_finalRegistry {t : Theorem} :
    t ∈ (options.finalRegistry calls).theorems.items ↔
      (options.session.run calls).1.theorem? t.name = some t := by
  have sound := (Session.sound_init options.session.config).run calls
  unfold Options.finalRegistry Session.theorem?
  cases ended : (options.session.run calls).1.registry with
  | none =>
      refine ⟨fun mem => ?_, nofun⟩
      cases mem
  | some r =>
      rw [Option.bind_some, (sound r ended).theorems.get?_eq_some_iff]
      exact ⟨fun mem => ⟨mem, rfl⟩, And.left⟩

theorem allProven_iff :
    (options.finalRegistry calls).theorems.items.all Theorem.isProven = true ↔
      ∀ new since, DefinedIn (options.session.history calls) new since → ProvenBy since new := by
  rw [List.all_eq_true]
  constructor
  · intro all new since definition
    obtain ⟨t, found, accounts⟩ := Session.accounts_of_definition definition
    have mem := (mem_finalRegistry options calls).mpr (accounts.name.symm ▸ found)
    exact (isProven_iff_provenBy accounts).mp (all t mem)
  · intro all t mem
    obtain ⟨new, since, definition, accounts⟩ :=
      Session.definition_of_theorem ((mem_finalRegistry options calls).mp mem)
    exact (isProven_iff_provenBy accounts).mpr (all new since definition)

/--
The exit code is zero exactly if each theorem that the run leaves behind was proven by a turn since
its definition.
-/
theorem proven_exactly :
    (∀ (config : Config) (calls : List (Nat × Invocation)),
      let s := (Session.init { config }).run calls
      let history := (Session.init { config }).history calls
      (∀ new since, DefinedIn history new since →
        ∃ t, s.1.theorem? new.name = some t ∧ Accounts new since t) ∧
      ∀ (time : Nat) (invocation : Invocation) (name : String) (t : Theorem),
        let turn : Turn := ⟨time, invocation, (s.1.perform time invocation).2⟩
        s.1.theorem? name = some t → turn.isReset = false →
        ∃ t', (s.1.perform time invocation).1.theorem? name = some t' ∧
          (t.isProven = true → t'.isProven = true) ∧
          (turn.provenWith? name = none → t'.proof = t.proof)) ∧
    (∀ (options : Options) (calls : List (Nat × Invocation)),
      let history := options.session.history calls
      (∀ t ∈ (options.finalRegistry calls).theorems.items,
        ∃ new since, DefinedIn history new since ∧ Accounts new since t) ∧
      ((options.reportOn calls).exitCode = 0 ↔
        ∀ new since, DefinedIn history new since → ProvenBy since new) ∧
      ((options.reportOn calls).exitCode ≠ 0 → (options.reportOn calls).exitCode = 1)) ∧
    ∀ {m : Type → Type} [Monad m] [LawfulMonad m] (env : Environment m) (options : Options),
      runOptions env options = (do
        match ← readText env options.path with
        | .error fault => return unreadable options.path fault
        | .ok content =>
          match parseScript content with
          | none => return malformed
          | some script =>
            return options.reportOn (← readings env options.session script).val) := by
  refine ⟨fun config calls => ⟨?_, ?_⟩, fun options calls => ⟨?_, ?_, ?_⟩, runOptions_eq⟩
  · exact fun new since => Session.accounts_of_definition
  · intro time invocation name t turn found noReset
    exact Session.perform_keeps ((Session.sound_init config).run calls) found noReset
  · intro t mem
    exact Session.definition_of_theorem ((mem_finalRegistry options calls).mp mem)
  · rw [← allProven_iff]
    unfold Options.reportOn report
    simp
  · unfold Options.reportOn report
    simp

end CommandLine

end Proofbook
