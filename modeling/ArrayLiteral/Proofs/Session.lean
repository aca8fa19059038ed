import ArrayLiteral.Proofs.Json.Distinct
import ArrayLiteral.Proofs.Literal.Alike
import ArrayLiteral.Proofs.Literal.Canonical
import ArrayLiteral.Proofs.Literal.Refusal
import ArrayLiteral.Session

/-!
# Proofs — Session

Runs of a session.  One goes on where another ends (`run_append`).

* A step fails only because the text is no literal or no JSON (`step_eq_error_iff`), and it leaves
  the session as it was (`next`).  So the steps that fail can be left out of a run: the others
  answer the same without them, and the session is the same at the end (`run_succeeding`).
* No map of the value has a key twice, whatever was read, sorted and put in (`unrepeated_after`).
  That is all that sorting asks for.
-/

namespace ArrayLiteral

namespace Value

variable {mode : QuoteScan} {t : Text} {v : Value}

theorem map?_eq_some_iff {entries : Entries Value} :
    v.map? = some entries ↔ v = .map entries := by
  cases v <;> simp [map?]

theorem list?_eq_some_iff {items : List Value} : v.list? = some items ↔ v = .list items := by
  cases v <;> simp [list?]

theorem unrepeated_of_built (h : v.Everywhere (Built mode) []) : v.Unrepeated :=
  h.imp fun _ _ hnode => hnode.distinctKeys

theorem unrepeated_ofText (mode : QuoteScan) (t : Text) : (ofText mode t).Unrepeated :=
  unrepeated_of_built (built_read (Text.trim_trim t) (Text.whole_nil _) nofun)

theorem unrepeated_of_parse (h : parse mode t = .ok v) : v.Unrepeated :=
  unrepeated_of_built (built_parse h).1

end Value

namespace Session

variable {s : Session} {step : Step} {fault : Fault}

/-! ### One step -/

theorem step_parse_eq_error_iff :
    s.step .parse = .error fault ↔
      ∃ e, Value.parse s.options.quoteScan s.text = .error e ∧ fault = .literal e := by
  rw [Session.step]
  cases Value.parse s.options.quoteScan s.text <;> simp [eq_comm]

theorem step_sortLiteral_eq_error_iff :
    s.step .sortLiteral = .error fault ↔
      ∃ e, Value.parse s.options.quoteScan s.text = .error e ∧ fault = .literal e := by
  simp only [← sortLiteral_eq_error_iff]
  rw [Session.step]
  cases ArrayLiteral.sortLiteral s.options s.text <;> simp [eq_comm]

theorem step_isCanonical_eq_error_iff :
    s.step .isCanonical = .error fault ↔
      ∃ e, Value.parse s.options.quoteScan s.text = .error e ∧ fault = .literal e := by
  simp only [← isCanonical_eq_error_iff]
  rw [Session.step]
  cases ArrayLiteral.isCanonical s.options s.text <;> simp [eq_comm]

theorem step_ofJson_eq_error_iff :
    s.step .ofJson = .error fault ↔ Value.ofJson? s.text = none ∧ fault = .json := by
  rw [Session.step]
  cases Value.ofJson? s.text <;> simp [eq_comm]

/-- **When a step fails**: it asks for a literal and the text is none, or for JSON and the text is
none. -/
theorem step_eq_error_iff :
    s.step step = .error fault ↔
      (step = .parse ∨ step = .sortLiteral ∨ step = .isCanonical) ∧
          (∃ e, Value.parse s.options.quoteScan s.text = .error e ∧ fault = .literal e) ∨
        step = .ofJson ∧ Value.ofJson? s.text = none ∧ fault = .json := by
  cases step with
  | parse => simp [step_parse_eq_error_iff]
  | sortLiteral => simp [step_sortLiteral_eq_error_iff]
  | isCanonical => simp [step_isCanonical_eq_error_iff]
  | ofJson => simp [step_ofJson_eq_error_iff]
  | entry key =>
      rw [Session.step]
      split <;> simp
  | element index =>
      rw [Session.step]
      split <;> simp
  | insert key value =>
      rw [Session.step]
      split <;> simp
  | _ => simp [Session.step]

/-! ### Runs -/

/-- The session after a step: the same one if the step fails. -/
def next (s : Session) (step : Step) : Session :=
  match s.step step with
  | .ok (_, s') => s'
  | .error _ => s

/-- What a step answers, or why it fails. -/
def answer (s : Session) (step : Step) : Except Fault Answer := (s.step step).map Prod.fst

/-- The session after all steps in turn. -/
def after (s : Session) (steps : List Step) : Session := steps.foldl next s

theorem next_of_answer_eq_error (h : s.answer step = .error fault) : s.next step = s := by
  rw [answer] at h
  rw [next]
  cases hstep : s.step step with
  | ok r =>
      rw [hstep] at h
      cases h
  | error e => rfl

theorem run_cons (s : Session) (step : Step) (steps : List Step) :
    s.run (step :: steps) = s.answer step :: (s.next step).run steps := by
  rw [run, answer, next]
  cases s.step step <;> rfl

theorem run_append (s : Session) (steps more : List Step) :
    s.run (steps ++ more) = s.run steps ++ (s.after steps).run more := by
  induction steps generalizing s with
  | nil => rfl
  | cons step steps ih =>
      rw [List.cons_append, run_cons, run_cons, ih, List.cons_append]
      rfl

/-- The steps that do not fail when all are taken in turn. -/
def succeeding (s : Session) : List Step → List Step
  | [] => []
  | step :: rest =>
    if (s.answer step).isOk then step :: succeeding (s.next step) rest
    else succeeding (s.next step) rest

/-- **The steps that fail can be left out**: the others give the same answers without them, and the
session is the same at the end. -/
theorem run_succeeding (s : Session) (steps : List Step) :
    s.run (s.succeeding steps) = (s.run steps).filter Except.isOk ∧
      s.after (s.succeeding steps) = s.after steps := by
  induction steps generalizing s with
  | nil => exact ⟨rfl, rfl⟩
  | cons step rest ih =>
      obtain ⟨hrun, hafter⟩ := ih (s.next step)
      rw [succeeding, run_cons]
      cases hanswer : s.answer step with
      | ok a =>
          have hok : (Except.ok a : Except Fault Answer).isOk = true := rfl
          rw [if_pos hok, run_cons, hanswer, hrun, List.filter_cons_of_pos hok]
          exact ⟨rfl, hafter⟩
      | error fault =>
          -- the step that is left out does not move the session
          have hnext : s.next step = s := next_of_answer_eq_error hanswer
          have hok : ¬(Except.error fault : Except Fault Answer).isOk = true := Bool.false_ne_true
          rw [hnext] at hrun hafter ⊢
          rw [if_neg hok, hrun, List.filter_cons_of_neg hok]
          refine ⟨rfl, hafter.trans ?_⟩
          rw [after, after, List.foldl_cons, hnext]

/-! ### The keys of the value -/

/-- A step that does not fail keeps the keys of the value distinct, if what it puts in has distinct
keys. -/
theorem unrepeated_of_step {s' : Session} {answer : Answer} (hs : s.value.Unrepeated)
    (hstep : ∀ key value, step = .insert key value → value.Unrepeated)
    (h : s.step step = .ok (answer, s')) : s'.value.Unrepeated := by
  cases step with
  | parse =>
      rw [Session.step] at h
      split at h <;> cases h
      exact Value.unrepeated_of_parse ‹_›
  | parseValue =>
      cases h
      exact Value.unrepeated_ofText _ _
  | sort order =>
      cases h
      exact hs.sortKeys order
  | sortLiteral | isCanonical =>
      rw [Session.step] at h
      split at h <;> cases h
      exact hs
  | ofJson =>
      rw [Session.step] at h
      split at h <;> cases h
      exact Value.unrepeated_ofJson? ‹_›
  | entry key =>
      rw [Session.step] at h
      split at h <;> cases h
      · obtain ⟨entries, hentries, hv⟩ := Option.bind_eq_some_iff.mp ‹_›
        rw [Value.map?_eq_some_iff.mp hentries] at hs
        exact hs.get? hv
      · exact hs
  | element index =>
      rw [Session.step] at h
      split at h <;> cases h
      · obtain ⟨items, hitems, hv⟩ := Option.bind_eq_some_iff.mp ‹_›
        rw [Value.list?_eq_some_iff.mp hitems] at hs
        exact Value.unrepeated_list_iff.mp hs _ (List.mem_of_getElem? hv)
      · exact hs
  | insert key value =>
      rw [Session.step] at h
      split at h <;> cases h
      · rename_i entries hentries
        rw [Value.map?_eq_some_iff.mp hentries] at hs
        exact hs.insert key (hstep key value rfl)
      · exact hs
  | _ =>
      cases h
      exact hs

/-- **One step** keeps the keys of the value distinct, if what it puts in has distinct keys. -/
theorem unrepeated_next (hs : s.value.Unrepeated)
    (hstep : ∀ key value, step = .insert key value → value.Unrepeated) :
    (s.next step).value.Unrepeated := by
  rw [next]
  split
  · exact unrepeated_of_step hs hstep ‹_›
  · exact hs

/-- **No map of the value has a key twice**, however many steps were taken. -/
theorem unrepeated_after {steps : List Step} (hs : s.value.Unrepeated)
    (hsteps : ∀ key value, .insert key value ∈ steps → value.Unrepeated) :
    (s.after steps).value.Unrepeated := by
  induction steps generalizing s with
  | nil => exact hs
  | cons step steps ih =>
      refine ih (unrepeated_next hs fun key value h => ?_) fun key value h => ?_
      · exact hsteps key value (h ▸ List.mem_cons_self)
      · exact hsteps key value (List.mem_cons_of_mem _ h)

end Session

end ArrayLiteral
