import Proofbook.Proofs.Session.Compartment

namespace Proofbook.Session

variable {s : Session} {time : Nat} {args : List Json}

/-! ## The reset call -/

theorem init_of_isInitialized (initialized : s.isInitialized = true) : s.init = s := by
  obtain ⟨config, registry⟩ := s
  obtain ⟨r, rfl⟩ := Option.isSome_iff_exists.mp initialized
  rfl

theorem known_reset : Operation.ofName? "system_reset" = some .systemReset := rfl

theorem perform_reset {confirmed : Bool} (initialized : s.isInitialized = true)
    (read : Request.read .systemReset args = .ok (.reset confirmed)) :
    s.perform time ⟨"system_reset", args⟩ =
      if confirmed then (s.cleanup.init, .ok (.verdict true)) else (s, .error .notConfirmed) := by
  obtain ⟨config, registry⟩ := s
  obtain ⟨r, rfl⟩ := Option.isSome_iff_exists.mp initialized
  rw [perform_of_read known_reset read, withRegistry]
  cases confirmed <;> rfl

theorem read_reset_of_other {value : Json} (other : value ≠ .bool true) :
    Request.read .systemReset [value] = .ok (.reset false) := by
  cases value with
  | bool confirmed =>
      cases confirmed with
      | false => rfl
      | true => exact absurd rfl other
  | null | number | string | array | object => rfl

theorem perform_reset_of_many (initialized : s.isInitialized = true) (many : 1 < args.length) :
    s.perform time ⟨"system_reset", args⟩ = (s, .error (.arity .systemReset args.length)) := by
  obtain ⟨config, registry⟩ := s
  obtain ⟨r, rfl⟩ := Option.isSome_iff_exists.mp initialized
  have beyond : ¬args.length ≤ 1 := Nat.not_le.mpr many
  have refused : Operation.systemReset.arity.admits args.length = false :=
    (Bool.and_eq_false_iff ..).mpr (.inr (decide_eq_false beyond))
  have read : Request.read .systemReset args = .error (.arity .systemReset args.length) := by
    rw [Request.read, refused]
    rfl
  simp only [perform, known_reset, withRegistry, Registry.answer, read]
  rfl

theorem perform_reset_of_refused (initialized : s.isInitialized = true) (empty : args ≠ [])
    (other : args ≠ [.bool true]) :
    s.perform time ⟨"system_reset", args⟩ =
      (s, .error (if args.length = 1 then .notConfirmed
        else .arity .systemReset args.length)) := by
  match args, empty, other with
  | [value], _, other =>
      exact perform_reset initialized (read_reset_of_other fun same => other (same ▸ rfl))
  | first :: second :: rest, _, _ =>
      rw [if_neg (by simp)]
      exact perform_reset_of_many initialized (by simp)

theorem perform_reset_of_released (released : s.isInitialized = false) :
    s.perform time ⟨"system_reset", args⟩ = (s, .error .notInitialized) := by
  obtain ⟨config, registry⟩ := s
  cases registry with
  | none => simp only [perform, known_reset, withRegistry]
  | some r => cases released

/-! ## Calls made again -/

theorem run_retimed {calls again : List (Nat × Invocation)}
    (same : again.map Prod.snd = calls.map Prod.snd)
    (inTime : ∀ outcome ∈ (s.run calls).2, timedOut outcome = false)
    (inTime' : ∀ outcome ∈ (s.run again).2, timedOut outcome = false) :
    (s.run again).2.map untimedOutcome = (s.run calls).2.map untimedOutcome := by
  have timeless : again.map (fun call => (0, call.2)) = calls.map fun call => (0, call.2) := by
    simpa [Function.comp_def] using congrArg (List.map fun invocation => (0, invocation)) same
  have first := congrArg Prod.snd (run_untimed inTime)
  have second := congrArg Prod.snd (run_untimed inTime')
  rw [timeless] at second
  exact second.symm.trans first

/-- No later call can tell a confirmed reset from releasing the registry and making it anew. -/
theorem reset_renews (s : Session) :
    (s.isInitialized = true →
      (∀ time args, args = [] ∨ args = [.bool true] →
        let renewed := (s.perform time ⟨"system_reset", args⟩).1
        (s.perform time ⟨"system_reset", args⟩).2 = .ok (.verdict true) ∧
        renewed.registry = some .fresh ∧
        renewed = s.cleanup.init ∧
        (∀ calls, renewed.run calls = (init { config := s.config }).run calls) ∧
        ∀ calls again : List (Nat × Invocation), again.map Prod.snd = calls.map Prod.snd →
          (∀ outcome ∈ (renewed.run calls).2, timedOut outcome = false) →
          (∀ outcome ∈ ((init { config := s.config }).run again).2, timedOut outcome = false) →
          ((init { config := s.config }).run again).2.map untimedOutcome =
            (renewed.run calls).2.map untimedOutcome) ∧
      (∀ time args, args ≠ [] → args ≠ [.bool true] →
        s.perform time ⟨"system_reset", args⟩ =
          (s, .error (if args.length = 1 then .notConfirmed
            else .arity .systemReset args.length))) ∧
      s.init = s) ∧
    (s.isInitialized = false →
      ∀ time args, s.perform time ⟨"system_reset", args⟩ = (s, .error .notInitialized)) := by
  refine ⟨fun initialized => ?_, fun released time args => perform_reset_of_released released⟩
  refine ⟨?_, fun time args => perform_reset_of_refused initialized,
    init_of_isInitialized initialized⟩
  intro time args confirming
  have read : Request.read .systemReset args = .ok (.reset true) := by
    rcases confirming with rfl | rfl <;> rfl
  rw [perform_reset initialized read, if_pos rfl]
  exact ⟨rfl, rfl, rfl, fun _ => rfl, fun calls again => run_retimed⟩

theorem reset_renews_stating :
    let s := ((init { config := {} }).run (stating "A" 3)).1
    s.isInitialized = true ∧
      ((init { config := {} }).run (stating "A" 7)).2.map untimedOutcome =
        ((s.perform 0 ⟨"system_reset", [.bool true]⟩).1.run (stating "A" 5)).2.map
          untimedOutcome := by
  intro s
  have initialized : s.isInitialized = true := rfl
  obtain ⟨-, -, -, -, again⟩ := ((reset_renews s).1 initialized).1 0 [.bool true] (.inr rfl)
  exact ⟨initialized, again (stating "A" 5) (stating "A" 7) rfl (by decide) (by decide)⟩

end Proofbook.Session
