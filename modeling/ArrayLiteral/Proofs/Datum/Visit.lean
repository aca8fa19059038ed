import ArrayLiteral.Proofs.Entries.Lookup
import ArrayLiteral.Proofs.Number.Origin
import ArrayLiteral.Proofs.Text.Utf8

/-!
# Proofs — Datum — Visit

Which data have a value, and which value it is.

The data of a stream are visited depth first, the entries of a map one after the other and in each
the key before the value (`visit`); each is visited in a place, which accepts it or not
(`Place.Accepts`).  Turning data into a value stops exactly where the visit first meets a datum that
is not accepted, and says so of this one (`fault?_toValue`).  Hence a key that is refused hides the
value behind it, and all that follows.

The value is told by a relation that follows the data and does not count on an order of work
(`Denotes`): it holds of exactly the value that is made (`toValue_eq_ok_iff`).
-/

namespace ArrayLiteral.Datum

/-! ### What a place accepts -/

/-- A place accepts a datum.  A value is not made of integers of 128 bits, bytes, wrappers or a
stream that breaks off; a key is text, be it in bytes. -/
def Place.Accepts : Place → Datum → Prop
  | .value, .signed128 _ | .value, .unsigned128 _ | .value, .bytes _ | .value, .wrapped _
  | .value, .failure _ => False
  | .value, _ => True
  | .key, .text _ => True
  | .key, .bytes content => ∃ t : Text, t.utf8 = content
  | .key, _ => False

/-- What is said of a datum that a place does not accept. -/
def Place.refusal : Place → Datum → Fault
  | _, .failure cause => .broken cause
  | .key, .bytes content => .notUtf8 content
  | place, d => .misplaced d place

theorem isSome_ofUtf8?_iff {content : List UInt8} :
    (Text.ofUtf8? content).isSome = true ↔ ∃ t : Text, t.utf8 = content := by
  rw [Option.isSome_iff_exists]
  exact exists_congr fun _ => Text.ofUtf8?_eq_some_iff

instance : ∀ (place : Place) (d : Datum), Decidable (place.Accepts d)
  | .value, .signed128 _ | .value, .unsigned128 _ | .value, .bytes _ | .value, .wrapped _
  | .value, .failure _ => .isFalse id
  | .value, .bool _ | .value, .signed _ | .value, .unsigned _ | .value, .float _
  | .value, .text _ | .value, .unit | .value, .absent | .value, .present _
  | .value, .sequence _ | .value, .mapping _ | .key, .text _ => .isTrue trivial
  | .key, .bytes _ => decidable_of_iff _ isSome_ofUtf8?_iff
  | .key, .bool _ | .key, .signed _ | .key, .unsigned _ | .key, .signed128 _
  | .key, .unsigned128 _ | .key, .float _ | .key, .unit | .key, .absent | .key, .present _
  | .key, .wrapped _ | .key, .sequence _ | .key, .mapping _ | .key, .failure _ => .isFalse id

/-- What is said of a datum in its place, if it is not accepted there. -/
def refusal? (met : Place × Datum) : Option Fault :=
  if met.1.Accepts met.2 then none else some (met.1.refusal met.2)

theorem refusal?_eq_none_iff {met : Place × Datum} :
    refusal? met = none ↔ met.1.Accepts met.2 := by
  rw [refusal?, ite_eq_left_iff, imp_iff_not (Option.some_ne_none _), not_not]

theorem refusal?_eq_some_iff {met : Place × Datum} {fault : Fault} :
    refusal? met = some fault ↔ ¬met.1.Accepts met.2 ∧ fault = met.1.refusal met.2 := by
  rw [refusal?]
  by_cases h : met.1.Accepts met.2
  · simp [h]
  · simp [h, eq_comm]

/-! ### The visit -/

mutual

/-- The data that are visited for a value, each in its place. -/
def visit : Datum → List (Place × Datum)
  | .present d => (.value, .present d) :: visit d
  | .sequence items => (.value, .sequence items) :: visitItems items
  | .mapping entries => (.value, .mapping entries) :: visitEntries entries
  | d => [(.value, d)]

/-- The data that are visited for elements. -/
def visitItems : List Datum → List (Place × Datum)
  | [] => []
  | d :: rest => visit d ++ visitItems rest

/-- The data that are visited for entries; a key is not entered. -/
def visitEntries : List (Datum × Datum) → List (Place × Datum)
  | [] => []
  | (k, v) :: rest => (.key, k) :: (visit v ++ visitEntries rest)

end

/-! ### The first datum that is refused -/

section Fault

variable {α β : Type}

/-- The fault, if there is one. -/
def fault? : Except Fault α → Option Fault
  | .ok _ => none
  | .error fault => some fault

theorem fault?_eq_none_iff {x : Except Fault α} : fault? x = none ↔ ∃ a, x = .ok a := by
  cases x <;> simp [fault?]

theorem fault?_eq_some_iff {x : Except Fault α} {fault : Fault} :
    fault? x = some fault ↔ x = .error fault := by
  cases x <;> simp [fault?]

theorem fault?_map (f : α → β) (x : Except Fault α) : fault? (x.map f) = fault? x := by
  cases x <;> rfl

/-- The fault of two steps is the first one's, if it has one. -/
theorem fault?_bind (x : Except Fault α) {f : α → Except Fault β} {later : Option Fault}
    (h : ∀ a, fault? (f a) = later) : fault? (x >>= f) = (fault? x).or later := by
  cases x with
  | error fault => rfl
  | ok a => exact h a

end Fault

theorem findSome?_cons_of_accepts {place : Place} {d : Datum} (h : place.Accepts d)
    (visited : List (Place × Datum)) :
    ((place, d) :: visited).findSome? refusal? = visited.findSome? refusal? := by
  rw [List.findSome?_cons, refusal?_eq_none_iff.mpr h]

theorem fault?_toKey (d : Datum) : fault? d.toKey = refusal? (.key, d) := by
  cases d with
  | bytes content =>
      cases h : Text.ofUtf8? content with
      | none =>
          have hnone : ¬Place.key.Accepts (.bytes content) := by
            rintro ⟨t, rfl⟩
            rw [Text.ofUtf8?_utf8] at h
            cases h
          rw [refusal?_eq_some_iff.mpr ⟨hnone, rfl⟩, toKey, h]
          rfl
      | some t =>
          have hsome : Place.key.Accepts (.bytes content) := ⟨t, Text.ofUtf8?_eq_some_iff.mp h⟩
          rw [refusal?_eq_none_iff.mpr hsome, toKey, h]
          rfl
  | _ => rfl

mutual

/-- **The fault of a datum** is that of the first one visited that is refused. -/
theorem fault?_toValue : ∀ d : Datum, fault? d.toValue = d.visit.findSome? refusal?
  | .present d => by
      have haccepts : Place.value.Accepts (.present d) := trivial
      rw [toValue, visit, findSome?_cons_of_accepts haccepts]
      exact fault?_toValue d
  | .sequence items => by
      have haccepts : Place.value.Accepts (.sequence items) := trivial
      rw [toValue, visit, findSome?_cons_of_accepts haccepts, fault?_map]
      exact fault?_toItems items
  | .mapping entries => by
      have haccepts : Place.value.Accepts (.mapping entries) := trivial
      rw [toValue, visit, findSome?_cons_of_accepts haccepts, fault?_map]
      exact fault?_toEntries [] entries
  | .bool _ | .signed _ | .unsigned _ | .signed128 _ | .unsigned128 _ | .float _ | .text _
  | .bytes _ | .unit | .absent | .wrapped _ | .failure _ => rfl

theorem fault?_toItems : ∀ items : List Datum,
    fault? (toItems items) = (visitItems items).findSome? refusal?
  | [] => rfl
  | d :: rest => by
      rw [toItems, visitItems, List.findSome?_append, ← fault?_toValue d, ← fault?_toItems rest]
      exact fault?_bind _ fun v => fault?_map (v :: ·) (toItems rest)

/-- What was put into a map before makes no difference to what is refused. -/
theorem fault?_toEntries : ∀ (done : Entries Value) (entries : List (Datum × Datum)),
    fault? (toEntries done entries) = (visitEntries entries).findSome? refusal?
  | _, [] => rfl
  | done, (k, v) :: rest => by
      have hvalue : ∀ key, fault? (do toEntries (done.insert key (← toValue v)) rest) =
          (fault? v.toValue).or ((visitEntries rest).findSome? refusal?) := fun key =>
        fault?_bind _ fun value => fault?_toEntries (done.insert key value) rest
      rw [toEntries, fault?_bind _ hvalue, visitEntries, List.findSome?_cons, fault?_toKey,
        List.findSome?_append, fault?_toValue v]
      -- a key that is refused hides its value and the entries behind it
      cases refusal? (.key, k) <;> rfl

end

/-! ### The value -/

/-- A datum is this key. -/
inductive DenotesKey : Datum → Text → Prop where
  | text (t : Text) : DenotesKey (.text t) t
  | bytes (t : Text) : DenotesKey (.bytes t.utf8) t

mutual

/-- A datum is this value.  An integer of 64 bits is kept exactly if it has a place among those with
a sign, and is rounded otherwise; a float is an integer if its value is one of these.  The entries
of a map are in the order in which their keys first occur, and each has the value that occurs last.
-/
inductive Denotes : Datum → Value → Prop where
  | bool (b : Bool) : Denotes (.bool b) (.bool b)
  | signed (i : Int64) : Denotes (.signed i) (.ofInt64 i)
  | small {n : UInt64} {i : Int64} (h : i.toInt = n.toNat) : Denotes (.unsigned n) (.ofInt64 i)
  | large {n : UInt64} {x : Binary64} (hn : 2 ^ 63 ≤ n.toNat)
      (hx : Binary64.Rounds false n.toNat x) : Denotes (.unsigned n) (.number (.float x))
  | whole {x : Binary64} {i : Int64} (hx : x.isFinite = true ∧ x.value = i.toInt) :
      Denotes (.float x) (.ofInt64 i)
  | float {x : Binary64} (hx : ∀ i : Int64, ¬(x.isFinite = true ∧ x.value = i.toInt)) :
      Denotes (.float x) (.number (.float x))
  | text (t : Text) : Denotes (.text t) (.string t)
  | unit : Denotes .unit .null
  | absent : Denotes .absent .null
  | present {d : Datum} {v : Value} (h : Denotes d v) : Denotes (.present d) v
  | sequence {items : List Datum} {vs : List Value} (h : DenoteItems items vs) :
      Denotes (.sequence items) (.list vs)
  | mapping {entries : List (Datum × Datum)} {pairs m : Entries Value}
      (h : DenoteEntries entries pairs) (hkeys : m.keys = pairs.keys.eraseDups)
      (hvalues : ∀ key, m.get? key = Entries.get? pairs.reverse key) :
      Denotes (.mapping entries) (.map m)

/-- Data are these elements, in order. -/
inductive DenoteItems : List Datum → List Value → Prop where
  | nil : DenoteItems [] []
  | cons {d : Datum} {rest : List Datum} {v : Value} {vs : List Value} (h : Denotes d v)
      (hrest : DenoteItems rest vs) : DenoteItems (d :: rest) (v :: vs)

/-- Data are these pairs, in order. -/
inductive DenoteEntries : List (Datum × Datum) → List (Text × Value) → Prop where
  | nil : DenoteEntries [] []
  | cons {k d : Datum} {rest : List (Datum × Datum)} {key : Text} {v : Value}
      {pairs : List (Text × Value)} (hkey : DenotesKey k key) (h : Denotes d v)
      (hrest : DenoteEntries rest pairs) : DenoteEntries ((k, d) :: rest) ((key, v) :: pairs)

end

theorem toKey_eq_ok_iff {d : Datum} {key : Text} : d.toKey = .ok key ↔ DenotesKey d key := by
  constructor
  · intro h
    cases d with
    | text t =>
        cases h
        exact .text _
    | bytes content =>
        rw [toKey] at h
        split at h
        · rename_i t ht
          cases h
          obtain rfl := Text.ofUtf8?_eq_some_iff.mp ht
          exact .bytes _
        · cases h
    | _ => cases h
  · intro h
    cases h with
    | text => rfl
    | bytes => rw [toKey, Text.ofUtf8?_utf8]

theorem denotes_unsigned (n : UInt64) : Denotes (.unsigned n) (.number (.ofNat n.toNat)) := by
  rcases Nat.lt_or_ge n.toNat (2 ^ 63) with hsmall | hlarge
  · rw [Number.ofNat_of_small hsmall]
    exact .small (Int64.toInt_ofNat_of_lt hsmall)
  · rw [Number.ofNat_of_large hlarge]
    exact .large hlarge (Binary64.rounds_ofNat n.toNat)

theorem denotes_float (x : Binary64) : Denotes (.float x) (.ofBinary64 x) := by
  rw [Value.ofBinary64]
  cases hx : Number.ofBinary64 x with
  | integer i => exact .whole (Number.ofBinary64_eq_integer_iff.mp hx)
  | float y =>
      obtain ⟨rfl, hfloat⟩ := Number.ofBinary64_eq_float_iff.mp hx
      exact .float hfloat

mutual

theorem denotes_of_toValue : ∀ (d : Datum) {v : Value}, d.toValue = .ok v → Denotes d v
  | .bool b, _, h => by
      cases h
      exact .bool b
  | .signed i, _, h => by
      cases h
      exact .signed i
  | .unsigned n, _, h => by
      cases h
      exact denotes_unsigned n
  | .float x, _, h => by
      cases h
      exact denotes_float x
  | .text t, _, h => by
      cases h
      exact .text t
  | .unit, _, h => by
      cases h
      exact .unit
  | .absent, _, h => by
      cases h
      exact .absent
  | .present d, _, h => by
      rw [toValue] at h
      exact .present (denotes_of_toValue d h)
  | .sequence items, _, h => by
      rw [toValue] at h
      obtain ⟨vs, hvs, rfl⟩ := map_eq_ok_iff.mp h
      exact .sequence (denoteItems_of_toItems items hvs)
  | .mapping entries, _, h => by
      rw [toValue] at h
      obtain ⟨m, hm, rfl⟩ := map_eq_ok_iff.mp h
      obtain ⟨pairs, hpairs, rfl⟩ := denoteEntries_of_toEntries entries hm
      exact .mapping hpairs (Entries.keys_collect pairs) (Entries.get?_collect pairs)
  | .signed128 _, _, h | .unsigned128 _, _, h | .bytes _, _, h | .wrapped _, _, h
  | .failure _, _, h => by cases h

theorem denoteItems_of_toItems : ∀ (items : List Datum) {vs : List Value},
    toItems items = .ok vs → DenoteItems items vs
  | [], _, h => by
      cases h
      exact .nil
  | d :: rest, _, h => by
      obtain ⟨v, us, hv, hus, rfl⟩ := toItems_cons_eq_ok h
      exact .cons (denotes_of_toValue d hv) (denoteItems_of_toItems rest hus)

/-- The pairs are put in one after the other. -/
theorem denoteEntries_of_toEntries : ∀ (entries : List (Datum × Datum)) {done m : Entries Value},
    toEntries done entries = .ok m → ∃ pairs, DenoteEntries entries pairs ∧ m = done.putAll pairs
  | [], _, _, h => by
      cases h
      exact ⟨[], .nil, rfl⟩
  | (k, d) :: rest, _, _, h => by
      obtain ⟨key, v, hkey, hv, hm⟩ := toEntries_cons_eq_ok h
      obtain ⟨pairs, hpairs, rfl⟩ := denoteEntries_of_toEntries rest hm
      exact ⟨(key, v) :: pairs,
        .cons (toKey_eq_ok_iff.mp hkey) (denotes_of_toValue d hv) hpairs, rfl⟩

end

mutual

theorem Denotes.toValue_eq {d : Datum} {v : Value} : Denotes d v → d.toValue = .ok v
  | .bool _ | .signed _ | .text _ | .unit | .absent => rfl
  | @Denotes.small n i h => by
      have hlt := i.toInt_lt
      have hsmall : n.toNat < 2 ^ 63 := by omega
      have hi : Int64.ofNat n.toNat = i := by
        rw [← Int64.toInt_inj, Int64.toInt_ofNat_of_lt hsmall, h]
      rw [toValue, Number.ofNat_of_small hsmall, hi]
      rfl
  | @Denotes.large n _ hn hx => by
      rw [toValue, Number.ofNat_of_large hn, hx.unique (Binary64.rounds_ofNat n.toNat)]
  | .whole hx => by
      rw [toValue, Value.ofBinary64, Number.ofBinary64_eq_integer_iff.mpr hx, Value.ofInt64]
  | .float hx => by
      rw [toValue, Value.ofBinary64, Number.ofBinary64_eq_float_iff.mpr ⟨rfl, hx⟩]
  | .present h => by
      rw [toValue]
      exact h.toValue_eq
  | .sequence h => by
      rw [toValue, h.toItems_eq]
      rfl
  | @Denotes.mapping _ pairs m h hkeys hvalues => by
      -- the relation tells the keys in order and what is found under them, and so the entries
      have hm : m = Entries.collect pairs :=
        Entries.eq_of_keys_eq (Entries.distinct_collect pairs)
          (hkeys.trans (Entries.keys_collect pairs).symm)
          fun key => (hvalues key).trans (Entries.get?_collect pairs key).symm
      rw [toValue, h.toEntries_eq, hm]
      rfl

theorem DenoteItems.toItems_eq {items : List Datum} {vs : List Value} :
    DenoteItems items vs → toItems items = .ok vs
  | .nil => rfl
  | .cons h hrest => by
      rw [toItems, h.toValue_eq, hrest.toItems_eq]
      rfl

theorem DenoteEntries.toEntries_eq {entries : List (Datum × Datum)}
    {pairs : List (Text × Value)} {done : Entries Value} :
    DenoteEntries entries pairs → toEntries done entries = .ok (done.putAll pairs)
  | .nil => rfl
  | .cons hkey h hrest => by
      rw [toEntries, toKey_eq_ok_iff.mpr hkey, h.toValue_eq]
      exact hrest.toEntries_eq

end

/-- **The value of a datum** is the one that the relation tells. -/
theorem toValue_eq_ok_iff {d : Datum} {v : Value} : d.toValue = .ok v ↔ Denotes d v :=
  ⟨denotes_of_toValue d, Denotes.toValue_eq⟩

/-! ### Every tree of data -/

/-- **Values from data.**  A datum has a value exactly if each datum that is visited is accepted in
its place.  Otherwise the fault is that of the first one that is not, whatever stands behind it.
The value, if there is one, is the one that the datum denotes. -/
theorem toValue_visit (d : Datum) :
    ((∃ v, d.toValue = .ok v) ↔ ∀ met ∈ d.visit, met.1.Accepts met.2) ∧
    (∀ fault, d.toValue = .error fault ↔ ∃ before place refused after,
      d.visit = before ++ (place, refused) :: after ∧
      (∀ met ∈ before, met.1.Accepts met.2) ∧
      ¬place.Accepts refused ∧ fault = place.refusal refused) ∧
    ∀ v, d.toValue = .ok v ↔ Denotes d v := by
  refine ⟨?_, fun fault => ?_, fun v => toValue_eq_ok_iff⟩
  · rw [← fault?_eq_none_iff, fault?_toValue, List.findSome?_eq_none_iff]
    exact forall₂_congr fun _ _ => refusal?_eq_none_iff
  · rw [← fault?_eq_some_iff, fault?_toValue, List.findSome?_eq_some_iff]
    constructor
    · rintro ⟨before, ⟨place, refused⟩, after, hvisit, hrefused, hbefore⟩
      obtain ⟨hplace, hfault⟩ := refusal?_eq_some_iff.mp hrefused
      exact ⟨before, place, refused, after, hvisit,
        fun met hmet => refusal?_eq_none_iff.mp (hbefore met hmet), hplace, hfault⟩
    · rintro ⟨before, place, refused, after, hvisit, hbefore, hplace, hfault⟩
      exact ⟨before, (place, refused), after, hvisit, refusal?_eq_some_iff.mpr ⟨hplace, hfault⟩,
        fun met hmet => refusal?_eq_none_iff.mpr (hbefore met hmet)⟩

/-- A key that is refused hides the value behind it and all that follows. -/
example : (sequence [.text "a".toList, .mapping [(.text "k".toList, .unit),
    (.unit, .failure "broken".toList)], .bytes []]).toValue =
    .error (.misplaced .unit .key) := rfl

end ArrayLiteral.Datum
