import SchemaCodegen.Model
import Mathlib.Data.List.Basic

/-!
# First occurrences

Several lists are made by going through another one and leaving out what came before. What they hold
stands in the order in which it occurs first, once each.
-/

namespace SchemaCodegen

/-- Whether items stand in the order in which they occur first in a source. -/
def InOrder {α : Type} [BEq α] (source items : List α) : Prop :=
  items.Pairwise fun item other => source.idxOf item < source.idxOf other

section

variable {α : Type} [BEq α] {source items : List α} {first : α}

theorem InOrder.nodup (ordered : InOrder source items) : items.Nodup := by
  apply ordered.imp
  rintro item other before rfl
  exact Nat.lt_irrefl _ before

variable [LawfulBEq α]

/-- What comes first in the source and is left out changes no order. -/
theorem InOrder.skip (ordered : InOrder source items) (leftOut : first ∉ items) :
    InOrder (first :: source) items := by
  apply List.Pairwise.imp_of_mem _ ordered
  intro item other isItem isOther before
  rw [List.idxOf_cons_ne _ (ne_of_mem_of_not_mem isItem leftOut).symm,
    List.idxOf_cons_ne _ (ne_of_mem_of_not_mem isOther leftOut).symm]
  exact Nat.succ_lt_succ before

/-- What comes first in the source stands first. -/
theorem InOrder.keep (ordered : InOrder source items) (isNew : first ∉ items) :
    InOrder (first :: source) (first :: items) := by
  refine List.pairwise_cons.mpr ⟨?_, ordered.skip isNew⟩
  intro item isItem
  rw [List.idxOf_cons_self, List.idxOf_cons_ne _ (ne_of_mem_of_not_mem isItem isNew).symm]
  exact Nat.succ_pos _

end

/-! ## First items -/

section Firsts

variable {α : Type} (key : α → String)

/-- The items that are the first of their key, those apart whose keys were seen before. -/
def firsts (seen : List String) : List α → List α
  | [] => []
  | item :: rest =>
    if key item ∈ seen then firsts seen rest else item :: firsts (seen ++ [key item]) rest

variable {key} {seen : List String} {items : List α} {item : α} {name : String}

theorem mem_keys_firsts : name ∈ (firsts key seen items).map key ↔
    name ∈ items.map key ∧ name ∉ seen := by
  induction items generalizing seen with
  | nil => simp [firsts]
  | cons first rest ih =>
    rw [firsts, List.map_cons, List.mem_cons]
    by_cases isSeen : key first ∈ seen
    · rw [if_pos isSeen, ih]
      constructor
      · exact fun isRest => ⟨.inr isRest.1, isRest.2⟩
      · rintro ⟨rfl | isRest, isNew⟩
        · exact absurd isSeen isNew
        · exact ⟨isRest, isNew⟩
    · rw [if_neg isSeen, List.map_cons, List.mem_cons, ih, List.mem_append, List.mem_singleton]
      by_cases isFirst : name = key first
      · simp [isFirst, isSeen]
      · simp [isFirst]

/-- What was seen is not among the first items. -/
theorem notMem_keys_firsts (isSeen : name ∈ seen) : name ∉ (firsts key seen items).map key :=
  fun isFirst => (mem_keys_firsts.mp isFirst).2 isSeen

variable (key) in
theorem inOrder_firsts (seen : List String) (items : List α) :
    InOrder (items.map key) ((firsts key seen items).map key) := by
  induction items generalizing seen with
  | nil => exact .nil
  | cons first rest ih =>
    rw [firsts, List.map_cons]
    split
    next isSeen => exact (ih seen).skip (notMem_keys_firsts isSeen)
    next => exact (ih _).keep (notMem_keys_firsts (List.mem_append_right _ (List.mem_singleton_self _)))

theorem find?_of_mem_firsts (isFirst : item ∈ firsts key seen items) :
    items.find? (key · == key item) = some item := by
  -- an item with a key that was seen is not the one that is looked for
  have passed {first : α} {seen rest} (isSeen : key first ∈ seen)
      (isLater : item ∈ firsts key seen rest) :
      (first :: rest).find? (key · == key item) = rest.find? (key · == key item) := by
    apply List.find?_cons_of_neg
    rw [beq_iff_eq]
    intro same
    apply notMem_keys_firsts isSeen
    rw [same]
    exact List.mem_map_of_mem isLater
  induction items generalizing seen with
  | nil => cases isFirst
  | cons first rest ih =>
    rw [firsts] at isFirst
    split at isFirst
    next isSeen => rw [passed isSeen isFirst, ih isFirst]
    next =>
      rcases List.mem_cons.mp isFirst with rfl | isLater
      · exact List.find?_cons_of_pos (beq_self_eq_true _)
      · rw [passed (List.mem_append_right _ (List.mem_singleton_self _)) isLater, ih isLater]

end Firsts

namespace Model

/-- Names are added to others if they are not there yet. -/
theorem foldl_distinct (seen names : List String) :
    names.foldl (fun seen name => if seen.contains name then seen else seen ++ [name]) seen =
      seen ++ firsts id seen names := by
  induction names generalizing seen with
  | nil => exact (List.append_nil seen).symm
  | cons first rest ih =>
    rw [List.foldl_cons, firsts, ih]
    by_cases isSeen : first ∈ seen
    · simp [isSeen]
    · simp [isSeen]

/-- Each name once is each name at its first occurrence. -/
theorem inOrder_distinct (names : List String) : InOrder names (distinct names) := by
  rw [distinct, foldl_distinct, List.nil_append]
  simpa using inOrder_firsts id [] names

/-- Of two lists, each name once is that of the first list and then what the second one adds. -/
theorem exists_distinct_append (first second : List String) :
    ∃ more, distinct (first ++ second) = distinct first ++ more ∧
      InOrder second more ∧ ∀ name, name ∈ more ↔ name ∈ second ∧ name ∉ first := by
  refine ⟨firsts id (distinct first) second, ?_, ?_, ?_⟩
  · rw [distinct, List.foldl_append]
    exact foldl_distinct _ second
  · simpa using inOrder_firsts id (distinct first) second
  · intro name
    simpa [mem_distinct] using @mem_keys_firsts _ id (distinct first) second name

end Model

end SchemaCodegen
