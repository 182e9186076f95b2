import Mathlib.Data.List.Induction
import Mathlib.Data.List.Nodup
import Mathlib.Tactic.Common

/-!
# Insertion-ordered dictionaries

Association lists as they arise by inserting one item after the other.
`setDefault` keeps the value that a key has, `set` replaces it in its place.
-/

abbrev OrderedDict (κ ν : Type*) := List (κ × ν)

namespace OrderedDict

variable {κ ν : Type*} [DecidableEq κ]

omit [DecidableEq κ] in
/-- The keys, in the order of their first insertion. -/
def keys (dict : OrderedDict κ ν) : List κ :=
  dict.map Prod.fst

omit [DecidableEq κ] in
def values (dict : OrderedDict κ ν) : List ν :=
  dict.map Prod.snd

def setDefault (dict : OrderedDict κ ν) (item : κ × ν) : OrderedDict κ ν :=
  if item.1 ∈ dict.keys then dict else dict ++ [item]

def set (dict : OrderedDict κ ν) (item : κ × ν) : OrderedDict κ ν :=
  if item.1 ∈ dict.keys then
    dict.map fun old => if old.1 = item.1 then item else old
  else dict ++ [item]

/-- `setDefault` for one item after the other, from an empty dictionary. -/
def ofFirst (items : List (κ × ν)) : OrderedDict κ ν :=
  items.foldl setDefault []

/-- `set` for one item after the other, from an empty dictionary. -/
def ofLast (items : List (κ × ν)) : OrderedDict κ ν :=
  items.foldl set []

/-- The value at a key. -/
def get? (dict : OrderedDict κ ν) (key : κ) : Option ν :=
  (dict.find? fun item => decide (item.1 = key)).map Prod.snd

theorem ofFirst_snoc (items : List (κ × ν)) (item : κ × ν) :
    ofFirst (items ++ [item]) = (ofFirst items).setDefault item :=
  List.foldl_concat ..

theorem ofLast_snoc (items : List (κ × ν)) (item : κ × ν) :
    ofLast (items ++ [item]) = (ofLast items).set item :=
  List.foldl_concat ..

theorem mem_keys_ofFirst {items : List (κ × ν)} {key : κ} :
    key ∈ (ofFirst items).keys ↔ key ∈ items.map Prod.fst := by
  induction items using List.reverseRecOn with
  | nil => rfl
  | append_singleton items item ih =>
      rw [ofFirst_snoc, setDefault, List.map_append, List.mem_append, ← ih]
      split
      case isTrue known =>
        constructor
        · exact .inl
        · rintro (old | new)
          · exact old
          · rw [List.mem_singleton.mp new]
            exact known
      case isFalse =>
        rw [keys, List.map_append, List.mem_append]
        rfl

theorem nodup_keys_ofFirst (items : List (κ × ν)) :
    (ofFirst items).keys.Nodup := by
  induction items using List.reverseRecOn with
  | nil => exact List.nodup_nil
  | append_singleton items item ih =>
      rw [ofFirst_snoc, setDefault]
      split
      case isTrue => exact ih
      case isFalse unknown =>
        rw [keys, List.map_append]
        exact List.nodup_append.mpr ⟨ih, List.nodup_singleton _, by
          rintro key old _ new rfl
          rw [List.map_singleton, List.mem_singleton] at new
          exact unknown (new ▸ old)⟩

/-- An item is kept exactly when no earlier one has its key. -/
theorem mem_ofFirst {items : List (κ × ν)} {item : κ × ν} :
    item ∈ ofFirst items ↔
      ∃ before after, items = before ++ item :: after ∧
        item.1 ∉ before.map Prod.fst := by
  induction items using List.reverseRecOn with
  | nil =>
      constructor
      · intro member
        cases member
      · rintro ⟨before, after, split, -⟩
        simp at split
  | append_singleton items last ih =>
      have later : item ∈ ofFirst items → ∃ before after,
          items ++ [last] = before ++ item :: after ∧
            item.1 ∉ before.map Prod.fst := by
        intro member
        obtain ⟨before, after, rfl, first⟩ := ih.mp member
        exact ⟨before, after ++ [last], by simp, first⟩
      rw [ofFirst_snoc, setDefault]
      constructor
      · intro member
        split at member
        case isTrue => exact later member
        case isFalse unknown =>
          rcases List.mem_append.mp member with old | new
          · exact later old
          · rw [List.mem_singleton.mp new]
            exact ⟨items, [], rfl, mem_keys_ofFirst.not.mp unknown⟩
      · rintro ⟨before, after, split, first⟩
        rcases List.eq_nil_or_concat' after with rfl | ⟨rest, other, rfl⟩
        · obtain ⟨rfl, same⟩ := List.append_inj' split rfl
          cases same
          rw [if_neg (mem_keys_ofFirst.not.mpr first)]
          exact List.mem_append_right _ List.mem_cons_self
        · have split' : items ++ [last] =
              (before ++ item :: rest) ++ [other] := by
            rw [split]
            simp
          obtain ⟨rfl, -⟩ := List.append_inj' split' rfl
          have member : item ∈ ofFirst (before ++ item :: rest) :=
            ih.mpr ⟨before, rest, rfl, first⟩
          split
          · exact member
          · exact List.mem_append_left _ member

/-- Items with different keys are the dictionary that they give. -/
theorem ofLast_of_nodup {items : List (κ × ν)}
    (different : (items.map Prod.fst).Nodup) : ofLast items = items := by
  induction items using List.reverseRecOn with
  | nil => rfl
  | append_singleton items item ih =>
      rw [List.map_append, List.nodup_append] at different
      have fresh : item.1 ∉ keys items := fun old =>
        different.2.2 item.1 old item.1 List.mem_cons_self rfl
      rw [ofLast_snoc, ih different.1, set, if_neg fresh]

theorem get?_eq_some_iff {dict : OrderedDict κ ν} (distinct : dict.keys.Nodup)
    {key : κ} {value : ν} :
    dict.get? key = some value ↔ (key, value) ∈ dict := by
  rw [get?, Option.map_eq_some_iff]
  constructor
  · rintro ⟨item, found, rfl⟩
    have matched := List.find?_some found
    have same : item.1 = key := of_decide_eq_true matched
    rw [← same]
    exact List.mem_of_find?_eq_some found
  · intro member
    have present : (dict.find? fun item => decide (item.1 = key)).isSome :=
      List.find?_isSome.mpr ⟨(key, value), member, decide_eq_true rfl⟩
    obtain ⟨item, found⟩ := Option.isSome_iff_exists.mp present
    have matched := List.find?_some found
    have same : item.1 = key := of_decide_eq_true matched
    have sameItem : item = (key, value) :=
      List.inj_on_of_nodup_map distinct (List.mem_of_find?_eq_some found)
        member same
    exact ⟨item, found, by rw [sameItem]⟩

end OrderedDict
