import Mathlib

namespace LastWriter
set_option autoImplicit true

section
variable {κ β : Type*} [DecidableEq κ]

/-- A map as the list of its entries; an insertion replaces what stood under the key. -/
def insert (entries : List (κ × β)) (key : κ) (value : β) : List (κ × β) :=
  entries.filter (·.1 ≠ key) ++ [(key, value)]

def lookup (entries : List (κ × β)) (key : κ) : Option β :=
  (entries.find? (·.1 = key)).map Prod.snd

/-- What was written last under the key. -/
def last (writes : List (κ × β)) (key : κ) : Option β := lookup writes.reverse key

/-- Each time another value was written under the key, this one was written again later. -/
def Restored (writes : List (κ × β)) (key : κ) (value : β) : Prop :=
  ∀ before other after, writes = before ++ (key, other) :: after → other ≠ value →
    (key, value) ∈ after

theorem lookup_cons (entry : κ × β) (entries : List (κ × β)) (key : κ) :
    lookup (entry :: entries) key = if entry.1 = key then some entry.2 else lookup entries key := by
  rw [lookup, List.find?_cons]
  split
  · next h => rw [if_pos (of_decide_eq_true h), Option.map_some]
  · next h =>
    rw [if_neg (of_decide_eq_false h)]
    rfl

theorem lookup_append (entries rest : List (κ × β)) (key : κ) :
    lookup (entries ++ rest) key = (lookup entries key).or (lookup rest key) := by
  rw [lookup, List.find?_append, Option.map_or]
  rfl

theorem lookup_eq_none_iff {entries : List (κ × β)} :
    lookup entries key = none ↔ ∀ entry ∈ entries, entry.1 ≠ key := by
  rw [lookup, Option.map_eq_none_iff, List.find?_eq_none]
  simp only [decide_eq_true_eq, ne_eq]

theorem lookup_filter (entries : List (κ × β)) (h : key' ≠ key) :
    lookup (entries.filter (·.1 ≠ key)) key' = lookup entries key' := by
  induction entries with
  | nil => rfl
  | cons entry entries ih =>
    rw [List.filter_cons, lookup_cons]
    by_cases he : entry.1 = key
    · have hskip : ¬decide (entry.1 ≠ key) = true := by
        rw [decide_eq_true_iff]
        exact not_not_intro he
      rw [if_neg hskip, ih, he, if_neg (Ne.symm h)]
    · rw [if_pos (decide_eq_true he), lookup_cons, ih]

theorem lookup_insert (entries : List (κ × β)) (key key' : κ) (value : β) :
    lookup (insert entries key value) key' =
      if key' = key then some value else lookup entries key' := by
  rw [insert, lookup_append, lookup_cons]
  by_cases h : key' = key
  · have hgone : lookup (entries.filter (·.1 ≠ key)) key = none := by
      rw [lookup_eq_none_iff]
      intro entry hentry
      exact of_decide_eq_true (List.mem_filter.1 hentry).2
    rw [h, hgone, if_pos rfl, if_pos rfl, Option.none_or]
  · rw [if_neg h, if_neg (Ne.symm h), lookup_filter entries h]
    exact Option.or_none

theorem nodup_insert {entries : List (κ × β)} (h : (entries.map Prod.fst).Nodup) (key : κ)
    (value : β) : ((insert entries key value).map Prod.fst).Nodup := by
  rw [insert, List.map_append, List.map_singleton, List.nodup_append]
  refine ⟨h.sublist (List.filter_sublist.map _), List.nodup_singleton key, ?_⟩
  intro other hother key' hkey
  obtain rfl := List.mem_singleton.1 hkey
  obtain ⟨entry, hentry, rfl⟩ := List.mem_map.1 hother
  exact of_decide_eq_true (List.mem_filter.1 hentry).2

theorem last_concat (writes : List (κ × β)) (key key' : κ) (value : β) :
    last (writes ++ [(key, value)]) key' =
      if key' = key then some value else last writes key' := by
  rw [last, List.reverse_append, List.reverse_singleton, List.singleton_append, lookup_cons]
  by_cases h : key' = key
  · rw [if_pos h, if_pos h.symm]
  · rw [if_neg h, if_neg (Ne.symm h)]
    rfl

theorem exists_last {writes : List (κ × β)} (h : (key, value) ∈ writes) :
    ∃ found, last writes key = some found := by
  apply Option.ne_none_iff_exists'.1
  rw [last, ne_eq, lookup_eq_none_iff]
  intro hall
  exact hall (key, value) (List.mem_reverse.2 h) rfl

theorem last_append_of_mem (writes : List (κ × β)) {after : List (κ × β)}
    (h : (key, value) ∈ after) : last (writes ++ after) key = last after key := by
  obtain ⟨found, hfound⟩ := exists_last h
  rw [last] at hfound
  rw [last, List.reverse_append, lookup_append, last, hfound, Option.some_or]

theorem last_append_of_forall_ne (writes : List (κ × β)) {after : List (κ × β)}
    (h : ∀ entry ∈ after, entry.1 ≠ key) : last (writes ++ after) key = last writes key := by
  have hnone : lookup after.reverse key = none := by
    rw [lookup_eq_none_iff]
    intro entry hentry
    exact h entry (List.mem_reverse.1 hentry)
  rw [last, List.reverse_append, lookup_append, hnone, Option.none_or]
  rfl

theorem last_split {writes : List (κ × β)} (h : last writes key = some value) :
    ∃ before after, writes = before ++ (key, value) :: after ∧
      ∀ entry ∈ after, entry.1 ≠ key := by
  rw [last, lookup, Option.map_eq_some_iff] at h
  obtain ⟨⟨key', value'⟩, hfind, rfl⟩ := h
  rw [List.find?_eq_some_iff_append] at hfind
  obtain ⟨hkey, later, earlier, hreverse, hlater⟩ := hfind
  obtain rfl : key' = key := of_decide_eq_true hkey
  refine ⟨earlier.reverse, later.reverse, ?_, ?_⟩
  · rw [← List.reverse_reverse writes, hreverse, List.reverse_append, List.reverse_cons,
      List.append_assoc, List.singleton_append]
  · intro entry hentry he
    have hnot := hlater entry (List.mem_reverse.1 hentry)
    rw [Bool.not_eq_true', decide_eq_false_iff_not] at hnot
    exact hnot he

theorem last_eq_of_forall {writes : List (κ × β)} (h : (key, value) ∈ writes)
    (hall : ∀ other, (key, other) ∈ writes → other = value) : last writes key = some value := by
  obtain ⟨found, hfound⟩ := exists_last h
  obtain ⟨before, after, heq, -⟩ := last_split hfound
  have hmem : (key, found) ∈ writes := by
    rw [heq]
    exact List.mem_append_right before List.mem_cons_self
  rw [hfound, hall found hmem]

/-- A value that was written under the key is the last one exactly when it was written again
after every other. -/
theorem last_eq_iff (writes : List (κ × β)) (h : (key, value) ∈ writes) :
    last writes key = some value ↔ Restored writes key value := by
  apply Iff.intro
  · intro hlast before other after heq hne
    have hmem : (key, other) ∈ (key, other) :: after := List.mem_cons_self
    rw [heq, last_append_of_mem before hmem] at hlast
    obtain ⟨front, back, hsplit, -⟩ := last_split hlast
    have hvalue : (key, value) ∈ (key, other) :: after := by
      rw [hsplit]
      exact List.mem_append_right front List.mem_cons_self
    rcases List.mem_cons.1 hvalue with hsame | hafter
    · exact absurd (congrArg Prod.snd hsame).symm hne
    · exact hafter
  · intro hrestored
    obtain ⟨found, hfound⟩ := exists_last h
    obtain ⟨before, after, heq, hafter⟩ := last_split hfound
    by_contra hne
    rw [hfound, Option.some_inj] at hne
    exact hafter (key, value) (hrestored before found after heq hne) rfl

end

end LastWriter
