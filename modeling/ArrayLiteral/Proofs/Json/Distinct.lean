import ArrayLiteral.Json.Reader
import ArrayLiteral.Proofs.Value.Distinct

/-!
# Proofs — Json — Distinct

What is read from JSON has no map with a key twice, whatever keys the text repeats
(`unrepeated_ofJson?`).  A word is no array (`IsFlat`), and what the machine has put together
so far keeps its keys distinct at every token (`Unrepeated.step`).
-/

namespace ArrayLiteral.Json

open Value

namespace Token

variable {m m' : Mode} {c : Char} {t : Text} {token : Token} {tokens : List Token}

/-- The value of a word is neither a list nor a map. -/
def IsFlat : Token → Prop
  | .scalar v => v.kind ≠ .list ∧ v.kind ≠ .map
  | _ => True

theorem isFlat_of_punctuation? (h : punctuation? c = some token) : token.IsFlat := by
  unfold punctuation? at h
  split_ifs at h <;> cases h <;> trivial

theorem isFlat_of_ofWord? {w : Text} (h : ofWord? w = some token) : token.IsFlat := by
  unfold ofWord? at h
  split_ifs at h
  · cases h
    exact ⟨nofun, nofun⟩
  · cases h
    exact ⟨nofun, nofun⟩
  · cases h
    exact ⟨nofun, nofun⟩
  · obtain ⟨n, -, rfl⟩ := Option.map_eq_some_iff.mp h
    exact ⟨nofun, nofun⟩

theorem isFlat_start (c : Char) : ∀ token ∈ (start c).1, token.IsFlat := by
  intro token htoken
  rw [start] at htoken
  split at htoken
  · rename_i p hp
    obtain rfl := List.mem_singleton.mp htoken
    exact isFlat_of_punctuation? hp
  · split_ifs at htoken <;> cases htoken

/-- The tokens that a character completes. -/
theorem isFlat_step (h : step m c = some (tokens, m')) : ∀ token ∈ tokens, token.IsFlat := by
  have hsilent : ∀ token ∈ ([] : List Token), token.IsFlat := nofun
  cases m with
  | between =>
      rw [step, Option.some.injEq] at h
      have hstart := isFlat_start c
      rwa [h] at hstart
  | word read =>
      rw [step] at h
      split at h
      · cases h
        exact hsilent
      · obtain ⟨word, hword, hrest⟩ := Option.bind_eq_some_iff.mp h
        cases hrest
        exact List.forall_mem_cons.mpr ⟨isFlat_of_ofWord? hword, isFlat_start c⟩
  | string read =>
      rw [step] at h
      split_ifs at h <;> cases h
      · exact fun token htoken => List.mem_singleton.mp htoken ▸ trivial
      · exact hsilent
      · exact hsilent
  | escape read =>
      rw [step] at h
      split at h
      · cases h
        exact hsilent
      · obtain ⟨d, -, hd⟩ := Option.map_eq_some_iff.mp h
        cases hd
        exact hsilent
  | unicode read lead digits =>
      obtain ⟨_, -, h⟩ := Option.bind_eq_some_iff.mp h
      dsimp only at h
      split at h
      · cases h
        exact hsilent
      · obtain ⟨_, -, h⟩ := Option.bind_eq_some_iff.mp h
        cases h
        exact hsilent
  | surrogate read lead =>
      rw [step] at h
      split at h <;> cases h
      exact hsilent
  | surrogateEscape read lead =>
      rw [step] at h
      split at h <;> cases h
      exact hsilent

theorem isFlat_finish (h : finish m = some tokens) : ∀ token ∈ tokens, token.IsFlat := by
  cases m with
  | between =>
      cases h
      exact fun _ hmem => nomatch hmem
  | word read =>
      obtain ⟨word, hword, rfl⟩ := Option.map_eq_some_iff.mp h
      exact fun token htoken => List.mem_singleton.mp htoken ▸ isFlat_of_ofWord? hword
  | _ => cases h

theorem isFlat_scan (h : scan m t = some tokens) : ∀ token ∈ tokens, token.IsFlat := by
  induction t generalizing m tokens with
  | nil => exact isFlat_finish h
  | cons c t ih =>
      obtain ⟨⟨first, m'⟩, hstep, h⟩ := Option.bind_eq_some_iff.mp h
      obtain ⟨rest, hrest, h⟩ := Option.bind_eq_some_iff.mp h
      cases h
      exact List.forall_mem_append.mpr ⟨isFlat_step hstep, ih hrest⟩

end Token

/-! ### The machine -/

/-- An array that is still open keeps its keys distinct. -/
def Frame.Unrepeated : Frame → Prop
  | .item done => (Value.list done).Unrepeated
  | .field done _ => (Value.map done).Unrepeated

namespace State

variable {s s' : State} {frames : List Frame} {token : Token} {v : Value}

/-- What the machine has put together so far keeps its keys distinct. -/
def Unrepeated : State → Prop
  | .value frames | .firstItem frames | .firstKey frames => ∀ f ∈ frames, f.Unrepeated
  | .afterItem frames done => (∀ f ∈ frames, f.Unrepeated) ∧ (Value.list done).Unrepeated
  | .key frames done | .colon frames done _ | .afterField frames done =>
      (∀ f ∈ frames, f.Unrepeated) ∧ (Value.map done).Unrepeated
  | .finished v => v.Unrepeated

theorem unrepeated_complete (hframes : ∀ f ∈ frames, f.Unrepeated) (hv : v.Unrepeated) :
    (complete v frames).Unrepeated := by
  cases frames with
  | nil => exact hv
  | cons f frames =>
      obtain ⟨hf, hrest⟩ := List.forall_mem_cons.mp hframes
      cases f with
      | item done =>
          exact ⟨hrest, unrepeated_list_iff.mpr
            (List.forall_mem_cons.mpr ⟨hv, unrepeated_list_iff.mp hf⟩)⟩
      | field done key => exact ⟨hrest, Value.Unrepeated.insert hf key hv⟩

theorem unrepeated_beginValue (hframes : ∀ f ∈ frames, f.Unrepeated) (htoken : token.IsFlat)
    (h : beginValue frames token = some s) : s.Unrepeated := by
  cases token with
  | scalar v =>
      cases h
      exact unrepeated_complete hframes (unrepeated_of_scalar htoken.1 htoken.2)
  | string t =>
      cases h
      exact unrepeated_complete hframes trivial
  | listStart | mapStart =>
      rw [beginValue] at h
      split at h <;> cases h
      exact hframes
  | _ => cases h

/-- **One token**: nothing the machine goes on with repeats a key. -/
theorem Unrepeated.step (hs : s.Unrepeated) (htoken : token.IsFlat)
    (h : s.step token = some s') : s'.Unrepeated := by
  have hmap : (Value.map []).Unrepeated := unrepeated_map_iff.mpr ⟨List.nodup_nil, nofun⟩
  have hlist : (Value.list []).Unrepeated := unrepeated_list_iff.mpr nofun
  cases s with
  | value frames => exact unrepeated_beginValue hs htoken h
  | firstItem frames =>
      have hopen : ∀ f ∈ .item [] :: frames, f.Unrepeated := List.forall_mem_cons.mpr ⟨hlist, hs⟩
      cases token with
      | listEnd =>
          cases h
          exact unrepeated_complete hs hlist
      | _ => exact unrepeated_beginValue hopen htoken h
  | afterItem frames done =>
      obtain ⟨hframes, hdone⟩ := hs
      cases token with
      | comma =>
          cases h
          exact List.forall_mem_cons.mpr ⟨hdone, hframes⟩
      | listEnd =>
          cases h
          refine unrepeated_complete hframes (unrepeated_list_iff.mpr fun v hv => ?_)
          exact unrepeated_list_iff.mp hdone v (List.mem_reverse.mp hv)
      | _ => cases h
  | firstKey frames =>
      cases token with
      | mapEnd =>
          cases h
          exact unrepeated_complete hs hmap
      | string key =>
          cases h
          exact ⟨hs, hmap⟩
      | _ => cases h
  | key frames done =>
      cases token with
      | string key =>
          cases h
          exact hs
      | _ => cases h
  | colon frames done key =>
      cases token with
      | colon =>
          cases h
          exact List.forall_mem_cons.mpr ⟨hs.2, hs.1⟩
      | _ => cases h
  | afterField frames done =>
      cases token with
      | comma =>
          cases h
          exact hs
      | mapEnd =>
          cases h
          exact unrepeated_complete hs.1 hs.2
      | _ => cases h
  | finished v => cases h

/-- **All tokens in turn.** -/
theorem Unrepeated.run {tokens : List Token} (hs : s.Unrepeated)
    (htokens : ∀ token ∈ tokens, token.IsFlat) (h : s.run tokens = some s') : s'.Unrepeated := by
  induction tokens generalizing s with
  | nil =>
      cases h
      exact hs
  | cons token tokens ih =>
      obtain ⟨hfirst, hrest⟩ := List.forall_mem_cons.mp htokens
      obtain ⟨next, hnext, h⟩ := Option.bind_eq_some_iff.mp h
      exact ih (hs.step hfirst hnext) hrest h

end State

end ArrayLiteral.Json

namespace ArrayLiteral.Value

/-- **What is read from JSON** has no map with a key twice. -/
theorem unrepeated_ofJson? {t : Text} {v : Value} (h : ofJson? t = some v) : v.Unrepeated := by
  obtain ⟨tokens, htokens, h⟩ := Option.bind_eq_some_iff.mp h
  obtain ⟨s, hrun, hresult⟩ := Option.bind_eq_some_iff.mp h
  have hs : s.Unrepeated := by
    refine Json.State.Unrepeated.run ?_ (Json.Token.isFlat_scan htokens) hrun
    exact fun _ hmem => nomatch hmem
  cases s with
  | finished w =>
      cases hresult
      exact hs
  | _ => cases hresult

end ArrayLiteral.Value
