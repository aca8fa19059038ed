import ArrayLiteral.Json.Reader
import ArrayLiteral.Proofs.Entries.Collect
import ArrayLiteral.Proofs.Json.Token
import ArrayLiteral.Proofs.Literal.WellFormed
import ArrayLiteral.Proofs.Value.Height
import ArrayLiteral.Proofs.Value.Reordered

/-!
# Proofs — Json — RoundTrip

A value that is written as JSON and read again (`ofJson?_toJson`).  What comes back is `plain`: an
expression has become a string, and a number what its text is read as; everything else is as it was.

The reader is a machine that runs over the tokens.  One token opens or closes an array, or goes from
one entry to the next; by induction on the value, its tokens lead from the place of a value to the
place behind it (`run_tokens`), as long as no more arrays are open than the machine allows.
-/

namespace ArrayLiteral

namespace Value

mutual

/-- The value without expressions, each of which becomes a string, and with other numbers. -/
def plain (number : Number → Value) : Value → Value
  | .null => .null
  | .bool b => .bool b
  | .number n => number n
  | .string s => .string s
  | .raw s => .string s
  | .list items => .list (plainItems number items)
  | .map entries => .map (plainEntries number entries)

/-- Each element without expressions. -/
def plainItems (number : Number → Value) : List Value → List Value
  | [] => []
  | item :: rest => plain number item :: plainItems number rest

/-- Each entry without expressions; the keys stay. -/
def plainEntries (number : Number → Value) : List (Text × Value) → List (Text × Value)
  | [] => []
  | (key, value) :: rest => (key, plain number value) :: plainEntries number rest

end

variable {number : Number → Value} {around : List Kind} {v : Value}

theorem plain_list (items : List Value) :
    (Value.list items).plain number = .list (items.map (plain number)) := by
  rw [plain]
  congr 1
  induction items with
  | nil => rfl
  | cons v rest ih => rw [plainItems, ih, List.map_cons]

theorem plain_map (entries : Entries Value) :
    (Value.map entries).plain number = .map (entries.map fun e => (e.1, e.2.plain number)) := by
  rw [plain]
  congr 1
  induction entries with
  | nil => rfl
  | cons e rest ih => rw [plainEntries, ih, List.map_cons]

/-- The numbers that occur are all that counts. -/
theorem plain_congr {other : Number → Value}
    (h : v.Everywhere (fun _ u => ∀ n, u = .number n → number n = other n) around) :
    v.plain number = v.plain other := by
  induction v generalizing around with
  | number n => exact h.here n rfl
  | list items ih =>
      obtain ⟨-, hitems⟩ := everywhere_list.mp h
      rw [plain_list, plain_list, List.map_congr_left fun v hv => ih v hv (hitems v hv)]
  | map entries ih =>
      obtain ⟨-, hentries⟩ := everywhere_map.mp h
      rw [plain_map, plain_map, List.map_congr_left fun e he => by rw [ih e he (hentries e he)]]
  | _ => rfl

end Value

namespace Json.State

open Value

variable {frames : List Frame} {around : List Kind} {v : Value}

/-! ### The machine -/

theorem run_cons {s s' : State} {token : Token} (h : s.step token = some s')
    (tokens : List Token) : s.run (token :: tokens) = s'.run tokens := by
  rw [run, List.foldlM_cons, h]
  rfl

theorem run_append_of_run {s s' : State} {tokens : List Token} (h : s.run tokens = some s')
    (rest : List Token) : s.run (tokens ++ rest) = s'.run rest := by
  rw [run_append, h, Option.bind_some]

/-- A value begins with no closing bracket, so it may stand where a list can end. -/
theorem run_firstItem (frames : List Frame) (v : Value) (rest : List Token) :
    (State.firstItem frames).run (v.tokens ++ rest) =
      (State.value (.item [] :: frames)).run (v.tokens ++ rest) := by
  cases v <;> rw [tokens] <;> rfl

/-! ### Elements and entries -/

variable {number : Number → Value}

/-- **More elements** are put before those that are done, the last one first. -/
theorem run_items {items : List Value}
    (h : ∀ v ∈ items, ∀ done, (State.value (.item done :: frames)).run v.tokens =
      some (.afterItem frames (v.plain number :: done))) (done : List Value) :
    (State.afterItem frames done).run ((items.map tokens).flatMap ([.comma] ++ ·)) =
      some (.afterItem frames ((items.map (plain number)).reverse ++ done)) := by
  induction items generalizing done with
  | nil => rfl
  | cons v rest ih =>
      obtain ⟨hv, hrest⟩ := List.forall_mem_cons.mp h
      rw [List.map_cons, List.flatMap_cons, List.append_assoc, List.singleton_append, run_cons rfl,
        run_append_of_run (hv done), ih hrest]
      simp

/-- **More entries** are put behind those that are done. -/
theorem run_entries {entries : Entries Value}
    (h : ∀ e ∈ entries, ∀ done key, (State.value (.field done key :: frames)).run e.2.tokens =
      some (.afterField frames (done.insert key (e.2.plain number)))) (done : Entries Value) :
    (State.afterField frames done).run
        ((entries.map fun e => .string e.1 :: .colon :: e.2.tokens).flatMap ([.comma] ++ ·)) =
      some (.afterField frames (done.putAll (entries.map fun e => (e.1, e.2.plain number)))) := by
  induction entries generalizing done with
  | nil => rfl
  | cons e rest ih =>
      obtain ⟨he, hrest⟩ := List.forall_mem_cons.mp h
      rw [List.map_cons, List.flatMap_cons, List.append_assoc, List.singleton_append, run_cons rfl,
        List.cons_append, List.cons_append, run_cons rfl, run_cons rfl,
        run_append_of_run (he done e.1), ih hrest]
      rfl

/-- The elements of a list between its brackets. -/
theorem run_list {items : List Value} (hdepth : frames.length < maxDepth)
    (h : ∀ v ∈ items, ∀ done, (State.value (.item done :: frames)).run v.tokens =
      some (.afterItem frames (v.plain number :: done))) :
    (State.value frames).run (Value.list items).tokens =
      some (complete ((Value.list items).plain number) frames) := by
  have hopen : (State.value frames).step .listStart = some (.firstItem frames) := if_pos hdepth
  rw [tokens, itemTokens_eq_map, run_cons hopen, plain_list]
  cases items with
  | nil => rfl
  | cons v rest =>
      obtain ⟨hv, hrest⟩ := List.forall_mem_cons.mp h
      have hclose : (State.afterItem frames
          ((rest.map (plain number)).reverse ++ [v.plain number])).step .listEnd =
            some (complete (.list ((v :: rest).map (plain number))) frames) := by
        simp [step]
      rw [List.map_cons, intercalate_cons, List.append_assoc, run_firstItem,
        run_append_of_run (hv []), run_append_of_run (run_items hrest _), run_cons hclose]
      rfl

/-- The entries of a map between its brackets. -/
theorem run_map {entries : Entries Value} (hdepth : frames.length < maxDepth)
    (hkeys : Entries.Distinct entries)
    (h : ∀ e ∈ entries, ∀ done key, (State.value (.field done key :: frames)).run e.2.tokens =
      some (.afterField frames (done.insert key (e.2.plain number)))) :
    (State.value frames).run (Value.map entries).tokens =
      some (complete ((Value.map entries).plain number) frames) := by
  have hopen : (State.value frames).step .mapStart = some (.firstKey frames) := if_pos hdepth
  rw [tokens, entryTokens_eq_map, run_cons hopen, plain_map]
  cases entries with
  | nil => rfl
  | cons e rest =>
      obtain ⟨he, hrest⟩ := List.forall_mem_cons.mp h
      -- the keys are distinct, so that no entry replaces another
      have hdistinct : Entries.Distinct ((e :: rest).map fun e => (e.1, e.2.plain number)) := by
        rw [Entries.Distinct, Entries.keys, List.map_map]
        exact hkeys
      rw [← Entries.collect_of_distinct hdistinct, List.map_cons, intercalate_cons,
        List.append_assoc, List.cons_append, List.cons_append, run_cons rfl, run_cons rfl,
        run_append_of_run (he [] e.1), run_append_of_run (run_entries hrest _)]
      rfl

/-- **The tokens of a value** lead from its place to the place behind it. -/
theorem run_tokens (hkeys : v.Everywhere (fun _ => DistinctKeys) around) {levels : Nat}
    (hheight : v.height ≤ levels) (hlevels : frames.length + levels ≤ maxDepth) :
    (State.value frames).run v.tokens = some (complete (v.plain reread) frames) := by
  induction v generalizing around frames levels with
  | list items ih =>
      obtain ⟨-, hitems⟩ := everywhere_list.mp hkeys
      cases levels with
      | zero => cases hheight
      | succ levels =>
          have hheights := height_list_le_iff.mp hheight
          refine run_list (by omega) fun v hv done => ?_
          exact ih v hv (hitems v hv) (hheights v hv) (by rw [List.length_cons]; omega)
  | map entries ih =>
      obtain ⟨hdistinct, hentries⟩ := everywhere_map.mp hkeys
      cases levels with
      | zero => cases hheight
      | succ levels =>
          have hheights := height_map_le_iff.mp hheight
          refine run_map (by omega) hdistinct fun e he done key => ?_
          exact ih e he (hentries e he) (hheights e he) (by rw [List.length_cons]; omega)
  | _ => rfl

end Json.State

namespace Value

open Json

variable {around : List Kind} {v : Value}

/-- A number in normal form comes back as it is. -/
theorem reread_of_normal {n : Number} (hnormal : n.Normal) (hfinite : n.Finite) :
    reread n = .number n := by
  cases n with
  | integer i => rfl
  | float x =>
      have hx : x.isFinite = true := hfinite
      have hkept : Number.ofBinary64 x = .float x := hnormal
      rw [reread, if_pos hx, ofBinary64, hkept]

theorem plain_reread_of_wellFormed {mode : QuoteScan} (h : v.Everywhere (WellFormed mode) around) :
    v.plain reread = v.plain .number := by
  refine plain_congr (h.imp ?_)
  rintro _ u hu n rfl
  exact reread_of_normal hu.1 hu.2

/-- **A value comes back from JSON** in every layout, if it is not nested too deep, has no key twice
in a map, and its floats read back: with strings for its expressions, with `null` for a number that
is not finite, and with integers for whole floats that fit.  Of a value that was read from a literal
every number comes back as it is. -/
theorem ofJson?_toJson (l : Layout) (hdepth : v.height ≤ State.maxDepth)
    (hkeys : v.Everywhere (fun _ => DistinctKeys) [])
    (hfloats : v.Everywhere (fun _ => FloatReadsBack) []) :
    ofJson? (v.toJson l) = some (v.plain reread) ∧
      ∀ mode t, v = ofText mode t ∨ parse mode t = .ok v →
        ofJson? (v.toJson l) = some (v.plain .number) := by
  have htokens : Token.ofText? (v.toJson l) = some v.tokens := (reads_write l hfloats 0).ofText?
  have hrun : (State.value []).run v.tokens = some (State.complete (v.plain reread) []) :=
    State.run_tokens hkeys hdepth (Nat.zero_add _).le
  have hread : ofJson? (v.toJson l) = some (v.plain reread) := by
    simp [ofJson?, htokens, hrun, State.complete, State.result?]
  refine ⟨hread, fun mode t ht => ?_⟩
  rw [hread, plain_reread_of_wellFormed (wellFormed_of_read mode t v ht)]

/-- A value that no literal has: the least integer, floats that are whole, infinite or neither, an
empty map, and a key that needs every kind of escape.  And one that a literal has. -/
theorem ofJson?_toJson_values :
    let key : Text := ['"', '\\', '\n', '\x01', 'é', '/']
    let v : Value := .list [.number (.integer Int64.minValue), .number (.float (.ofInt 3)),
      .number (.float (.ofRank true Binary64.infinityRank)), .number (.float (.ofRatio true 5 2)),
      .map [], .map [(key, .list []), ([], .raw "a + b".toList)]]
    let t : Text := "[ 'k' => f(1), 7 => 2.50 ]".toList
    let w : Value := .map [(['k'], .raw "f(1)".toList),
      (['7'], .number (.float (.ofRatio false 5 2)))]
    (v.height ≤ State.maxDepth ∧ v.Everywhere (fun _ => DistinctKeys) [] ∧
        v.Everywhere (fun _ => FloatReadsBack) [] ∧
        ofJson? (v.toJson .indented) = some (.list [.number (.integer Int64.minValue),
          .number (.integer 3), .null, .number (.float (.ofRatio true 5 2)), .map [],
          .map [(key, .list []), ([], .string "a + b".toList)]])) ∧
      w.height ≤ State.maxDepth ∧ w.Everywhere (fun _ => DistinctKeys) [] ∧
        w.Everywhere (fun _ => FloatReadsBack) [] ∧
        (w = ofText .escapes t ∨ parse .escapes t = .ok w) ∧
        ofJson? (w.toJson .compact) = some (.map [(['k'], .string "f(1)".toList),
          (['7'], .number (.float (.ofRatio false 5 2)))]) := by
  intro key v t w
  have hv : v.height ≤ State.maxDepth := by decide
  have hvkeys : v.Everywhere (fun _ => DistinctKeys) [] := by decide
  have hvfloats : v.Everywhere (fun _ => FloatReadsBack) [] := by decide +kernel
  have hw : w.height ≤ State.maxDepth := by decide
  have hwkeys : w.Everywhere (fun _ => DistinctKeys) [] := by decide
  have hwfloats : w.Everywhere (fun _ => FloatReadsBack) [] := by decide +kernel
  have hparse : parse .escapes t = .ok w := by decide +kernel
  have hplain : v.plain reread = .list [.number (.integer Int64.minValue),
      .number (.integer 3), .null, .number (.float (.ofRatio true 5 2)), .map [],
      .map [(key, .list []), ([], .string "a + b".toList)]] := by decide +kernel
  refine ⟨⟨hv, hvkeys, hvfloats, ?_⟩, hw, hwkeys, hwfloats, Or.inr hparse, ?_⟩
  · rw [← hplain]
    exact (ofJson?_toJson .indented hv hvkeys hvfloats).1
  · exact (ofJson?_toJson .compact hw hwkeys hwfloats).2 .escapes t (Or.inr hparse)

end Value

end ArrayLiteral
