/-
  SchemaDump/Proofs/Table/Key.lean
  ================================
  **Key parts and the groups that they make.**

  The key parts of a table arrive interleaved.  Gathered part after part, each
  joins the group of its name or starts one at the end, so that no part is lost
  or listed twice and groups stand in the order in which their names appear.
  Sorting each group by position afterwards keeps the order of parts at the same
  position.  Where no two parts of one key share a position nothing about a group
  depends on the order of the parts; only the order of the groups does.
-/
import Mathlib.Data.List.Induction
import Mathlib.Data.List.Nodup
import Mathlib.Data.List.Pairwise
import Mathlib.Data.List.Perm.Basic
import SchemaDump.Dump

namespace SchemaDump

/-! ### Items without repetitions -/

section
variable {α : Type} [BEq α] [LawfulBEq α]

/-- What stands twice in a list is kept once. -/
theorem nodup_eraseDups (items : List α) : items.eraseDups.Nodup := by
  cases items with
  | nil => exact List.nodup_nil
  | cons first others =>
    rw [List.eraseDups_cons, List.nodup_cons]
    refine ⟨?_, nodup_eraseDups (others.filter fun item => !item == first)⟩
    rw [List.mem_eraseDups, List.mem_filter]
    rintro ⟨-, hother⟩
    simp at hother
termination_by items.length
decreasing_by exact Nat.lt_succ_of_le (List.length_filter_le _ _)

theorem eraseDups_concat_of_mem {items : List α} {item : α} (h : item ∈ items) :
    (items ++ [item]).eraseDups = items.eraseDups := by
  simp [List.eraseDups_append, List.removeAll, h]

theorem eraseDups_concat_of_notMem {items : List α} {item : α} (h : item ∉ items) :
    (items ++ [item]).eraseDups = items.eraseDups ++ [item] := by
  simp [List.eraseDups_append, List.removeAll, List.eraseDups_cons, h]

/-- The items of a list without repetitions stand in the order of their first appearance. -/
theorem pairwise_idxOf_eraseDups (items : List α) :
    items.eraseDups.Pairwise fun a b => items.idxOf a < items.idxOf b := by
  induction items using List.reverseRecOn with
  | nil => exact List.Pairwise.nil
  | append_singleton items item ih =>
    -- what stands in the list keeps its index when the list goes on
    have hkeep : items.eraseDups.Pairwise fun a b =>
        (items ++ [item]).idxOf a < (items ++ [item]).idxOf b := by
      refine ih.imp_of_mem fun {a b} ha hb hlt => ?_
      rw [List.idxOf_append_of_mem (List.mem_eraseDups.1 ha),
        List.idxOf_append_of_mem (List.mem_eraseDups.1 hb)]
      exact hlt
    by_cases hmem : item ∈ items
    · rw [eraseDups_concat_of_mem hmem]
      exact hkeep
    · rw [eraseDups_concat_of_notMem hmem, List.pairwise_append]
      refine ⟨hkeep, List.pairwise_singleton _ _, ?_⟩
      intro a ha b hb
      obtain rfl := List.mem_singleton.1 hb
      have ha := List.mem_eraseDups.1 ha
      rw [List.idxOf_append_of_mem ha, List.idxOf_append_of_notMem hmem]
      exact Nat.lt_add_right _ (List.idxOf_lt_length_of_mem ha)

end

namespace KeyGroup

variable {part : KeyPart} {parts : List KeyPart} {groups : List KeyGroup}

theorem map_name_collect (parts : List KeyPart) :
    (collect parts).map name = (parts.map KeyPart.keyName).eraseDups := by
  rw [collect, List.map_map]
  exact List.map_id' _

/-- **No two groups share a name.** -/
theorem nodup_map_name_collect (parts : List KeyPart) : ((collect parts).map name).Nodup := by
  rw [map_name_collect]
  exact nodup_eraseDups _

/-! ### Part after part -/

/-- Groups with one more part: it joins the group of its name, or starts one at the end. -/
def putPart (part : KeyPart) : List KeyGroup → List KeyGroup
  | [] => [⟨part.keyName, [part]⟩]
  | group :: rest =>
    if group.name == part.keyName then ⟨group.name, group.parts ++ [part]⟩ :: rest
    else group :: putPart part rest

/-- Parts gathered one after another, in the order in which they were listed. -/
def gather (parts : List KeyPart) : List KeyGroup :=
  parts.foldl (fun groups part => putPart part groups) []

def byPosition (a b : KeyPart) : Bool := a.position.toNat ≤ b.position.toNat

/-- A group with its parts by position. -/
def sorted (group : KeyGroup) : KeyGroup := ⟨group.name, group.parts.mergeSort byPosition⟩

/-- The parts of a name as they were listed. -/
def listed (parts : List KeyPart) (name : String) : KeyGroup :=
  ⟨name, parts.filter fun part => part.keyName == name⟩

theorem listed_concat_of_eq {name : String} (h : part.keyName = name) :
    listed (parts ++ [part]) name = ⟨name, (listed parts name).parts ++ [part]⟩ := by
  simp [listed, h]

theorem listed_concat_of_ne {name : String} (h : part.keyName ≠ name) :
    listed (parts ++ [part]) name = listed parts name := by
  simp [listed, h]

theorem putPart_cons_of_eq {group : KeyGroup} (h : part.keyName = group.name) :
    putPart part (group :: groups) = ⟨group.name, group.parts ++ [part]⟩ :: groups := by
  rw [putPart, if_pos (beq_iff_eq.2 h.symm)]

theorem putPart_cons_of_ne {group : KeyGroup} (h : part.keyName ≠ group.name) :
    putPart part (group :: groups) = group :: putPart part groups := by
  rw [putPart, if_neg fun heq => h (beq_iff_eq.1 heq).symm]

/-- A part of a name that has a group changes that group alone. -/
theorem putPart_map_listed_of_mem {names : List String} (hnodup : names.Nodup)
    (hmem : part.keyName ∈ names) :
    putPart part (names.map (listed parts)) = names.map (listed (parts ++ [part])) := by
  induction names with
  | nil => cases hmem
  | cons name names ih =>
    rw [List.nodup_cons] at hnodup
    rw [List.map_cons, List.map_cons]
    by_cases hname : part.keyName = name
    · have hrest : names.map (listed (parts ++ [part])) = names.map (listed parts) := by
        refine List.map_congr_left fun other hother => listed_concat_of_ne ?_
        rintro rfl
        exact hnodup.1 (hname ▸ hother)
      rw [putPart_cons_of_eq hname, listed_concat_of_eq hname, hrest]
      rfl
    · have hother : part.keyName ∈ names := (List.mem_cons.1 hmem).resolve_left hname
      rw [putPart_cons_of_ne hname, listed_concat_of_ne hname, ih hnodup.2 hother]

/-- A part of a new name leaves all groups as they are. -/
theorem putPart_map_listed_of_notMem {names : List String} (hnotMem : part.keyName ∉ names) :
    putPart part (names.map (listed parts))
      = names.map (listed (parts ++ [part])) ++ [⟨part.keyName, [part]⟩] := by
  induction names with
  | nil => rfl
  | cons name names ih =>
    rw [List.mem_cons, not_or] at hnotMem
    rw [List.map_cons, List.map_cons, putPart_cons_of_ne hnotMem.1,
      listed_concat_of_ne hnotMem.1, ih hnotMem.2]
    rfl

/-- **Gathering part after part** gives each name, where it first appears, the parts of it. -/
theorem gather_eq (parts : List KeyPart) :
    gather parts = (parts.map KeyPart.keyName).eraseDups.map (listed parts) := by
  -- by the parts that have been put: one more of them is one more step
  induction parts using List.reverseRecOn with
  | nil => rfl
  | append_singleton parts part ih =>
    have hstep : gather (parts ++ [part]) = putPart part (gather parts) := by
      rw [gather, List.foldl_concat, gather]
    rw [hstep, ih, List.map_append, List.map_singleton]
    by_cases hmem : part.keyName ∈ parts.map KeyPart.keyName
    · rw [eraseDups_concat_of_mem hmem]
      exact putPart_map_listed_of_mem (nodup_eraseDups _) (List.mem_eraseDups.2 hmem)
    · have hnew : listed (parts ++ [part]) part.keyName = ⟨part.keyName, [part]⟩ := by
        have hnone : parts.filter (fun held => held.keyName == part.keyName) = [] := by
          rw [List.filter_eq_nil_iff]
          intro held hheld heq
          exact hmem (List.mem_map.2 ⟨held, hheld, beq_iff_eq.1 heq⟩)
        rw [listed_concat_of_eq rfl, listed, hnone]
        rfl
      rw [eraseDups_concat_of_notMem hmem, List.map_append, List.map_singleton, hnew]
      exact putPart_map_listed_of_notMem fun h => hmem (List.mem_eraseDups.1 h)

/-- **Groups are gathered part after part and then sorted.** -/
theorem collect_eq_map_sorted_gather (parts : List KeyPart) :
    collect parts = (gather parts).map sorted := by
  rw [gather_eq, List.map_map]
  rfl

/-! ### No part is lost -/

/-- One more part is one more part of all groups. -/
theorem flatMap_parts_putPart (part : KeyPart) (groups : List KeyGroup) :
    ((putPart part groups).flatMap KeyGroup.parts).Perm
      (groups.flatMap KeyGroup.parts ++ [part]) := by
  induction groups with
  | nil => exact List.Perm.refl _
  | cons group groups ih =>
    by_cases hname : part.keyName = group.name
    · rw [putPart_cons_of_eq hname, List.flatMap_cons, List.flatMap_cons, List.append_assoc,
        List.append_assoc]
      exact List.perm_append_comm.append_left group.parts
    · rw [putPart_cons_of_ne hname, List.flatMap_cons, List.flatMap_cons, List.append_assoc]
      exact ih.append_left group.parts

theorem flatMap_parts_gather (parts : List KeyPart) :
    ((gather parts).flatMap KeyGroup.parts).Perm parts := by
  induction parts using List.reverseRecOn with
  | nil => exact List.Perm.refl _
  | append_singleton parts part ih =>
    rw [gather, List.foldl_concat]
    exact (flatMap_parts_putPart part _).trans (ih.append_right [part])

/-- **All groups together have the parts that were listed**, each once. -/
theorem flatMap_parts_collect (parts : List KeyPart) :
    ((collect parts).flatMap KeyGroup.parts).Perm parts := by
  rw [collect_eq_map_sorted_gather, List.flatMap_map]
  have hsorted : ((gather parts).flatMap fun group => (sorted group).parts).Perm
      ((gather parts).flatMap KeyGroup.parts) :=
    List.Perm.flatMap_left _ fun group _ => List.mergeSort_perm _ _
  exact hsorted.trans (flatMap_parts_gather parts)

/-! ### The parts of one key -/

theorem byPosition_trans (a b c : KeyPart) (hab : byPosition a b = true)
    (hbc : byPosition b c = true) : byPosition a c = true := by
  simp only [byPosition, decide_eq_true_eq] at *
  omega

theorem byPosition_total (a b : KeyPart) : (byPosition a b || byPosition b a) = true := by
  simp only [byPosition, Bool.or_eq_true, decide_eq_true_eq]
  omega

theorem byPosition_iff {a b : KeyPart} : byPosition a b = true ↔ a.position ≤ b.position := by
  rw [byPosition, decide_eq_true_eq, UInt32.le_iff_toNat_le]

theorem partsNamed_eq (name : String) (parts : List KeyPart) :
    partsNamed name parts
      = (parts.filter fun part => part.keyName == name).mergeSort byPosition := rfl

theorem partsNamed_perm (name : String) (parts : List KeyPart) :
    (partsNamed name parts).Perm (parts.filter fun part => part.keyName == name) :=
  List.mergeSort_perm _ _

theorem pairwise_partsNamed (name : String) (parts : List KeyPart) :
    (partsNamed name parts).Pairwise fun a b => a.position ≤ b.position := by
  have hsorted : (partsNamed name parts).Pairwise fun a b => byPosition a b = true :=
    List.pairwise_mergeSort byPosition_trans byPosition_total _
  exact hsorted.imp byPosition_iff.1

/-- **The sort is stable**: parts at one position stand in the order in which they were listed. -/
theorem filter_position_mergeSort (parts : List KeyPart) (position : UInt32) :
    (parts.mergeSort byPosition).filter (fun part => part.position == position)
      = parts.filter fun part => part.position == position := by
  let there := parts.filter fun part => part.position == position
  have hordered : there.Pairwise fun a b => byPosition a b = true := by
    refine List.pairwise_of_forall_mem_list fun a ha b hb => ?_
    have hpositions : a.position = b.position :=
      (beq_iff_eq.1 (List.mem_filter.1 ha).2).trans (beq_iff_eq.1 (List.mem_filter.1 hb).2).symm
    rw [byPosition_iff, hpositions]
    exact UInt32.le_refl _
  -- a sorted part of the list stays a part of it, and there are no more parts at the position
  have hsublist : there.Sublist (parts.mergeSort byPosition) :=
    List.sublist_mergeSort byPosition_trans byPosition_total hordered List.filter_sublist
  have hthere : there.Sublist
      ((parts.mergeSort byPosition).filter fun part => part.position == position) := by
    have hfilter := hsublist.filter fun part => part.position == position
    rw [List.filter_filter] at hfilter
    simpa only [Bool.and_self] using hfilter
  have hlength := ((List.mergeSort_perm parts byPosition).filter
    fun part => part.position == position).length_eq
  exact (hthere.eq_of_length hlength.symm).symm

theorem filter_position_partsNamed (name : String) (parts : List KeyPart) (position : UInt32) :
    (partsNamed name parts).filter (fun part => part.position == position)
      = parts.filter fun part => part.keyName == name && part.position == position := by
  have hstable := filter_position_mergeSort
    (parts.filter fun part => part.keyName == name) position
  rw [partsNamed_eq, hstable, List.filter_filter]
  exact List.filter_congr fun part _ => Bool.and_comm _ _

/-- Whether parts of one key have positions of their own. -/
def ArePlaced (parts : List KeyPart) : Prop :=
  parts.Pairwise fun a b => a.keyName = b.keyName → a.position ≠ b.position

instance (parts : List KeyPart) : Decidable (ArePlaced parts) :=
  inferInstanceAs (Decidable (parts.Pairwise _))

theorem ArePlaced.eq_of_position (h : ArePlaced parts) {a b : KeyPart} (ha : a ∈ parts)
    (hb : b ∈ parts) (hname : a.keyName = b.keyName) (hposition : a.position = b.position) :
    a = b := by
  by_contra hne
  have hsymm : Std.Symm fun a b : KeyPart => a.keyName = b.keyName → a.position ≠ b.position :=
    ⟨fun a b hab hba heq => hab hba.symm heq.symm⟩
  exact List.Pairwise.forall h ha hb hne hname hposition

/-- **Of parts with positions of their own the order does not count.** -/
theorem partsNamed_eq_of_perm {others : List KeyPart} (hperm : others.Perm parts)
    (hplaced : ArePlaced parts) (name : String) :
    partsNamed name others = partsNamed name parts := by
  have hsame : (partsNamed name others).Perm (partsNamed name parts) :=
    ((partsNamed_perm name others).trans (hperm.filter _)).trans (partsNamed_perm name parts).symm
  have hmem : ∀ part ∈ partsNamed name parts, part ∈ parts ∧ part.keyName = name := by
    intro part hpart
    have hlisted := List.mem_filter.1 ((partsNamed_perm name parts).mem_iff.1 hpart)
    exact ⟨hlisted.1, beq_iff_eq.1 hlisted.2⟩
  refine List.Perm.eq_of_pairwise ?_ (pairwise_partsNamed name others)
    (pairwise_partsNamed name parts) hsame
  intro a b ha hb hab hba
  obtain ⟨ha, hnamed⟩ := hmem a (hsame.mem_iff.1 ha)
  obtain ⟨hb, hnamed'⟩ := hmem b hb
  exact hplaced.eq_of_position ha hb (hnamed.trans hnamed'.symm) (UInt32.le_antisymm hab hba)

/-! ### Groups -/

/-- **What it is to regroup key parts**: a group for each name that appears, in the order
    in which the names first appear, and in each group the parts of its name by position, parts at
    one position in the order in which they were listed. -/
structure IsGrouping (parts : List KeyPart) (groups : List KeyGroup) : Prop where
  nodup_names : (groups.map name).Nodup
  mem_names_iff : ∀ name, name ∈ groups.map KeyGroup.name ↔ ∃ part ∈ parts, part.keyName = name
  firstAppearance : groups.Pairwise fun a b =>
    (parts.map KeyPart.keyName).idxOf a.name < (parts.map KeyPart.keyName).idxOf b.name
  perm_parts : ∀ group ∈ groups,
    group.parts.Perm (parts.filter fun part => part.keyName == group.name)
  ascending : ∀ group ∈ groups, group.parts.Pairwise fun a b => a.position ≤ b.position
  stable : ∀ group ∈ groups, ∀ position,
    group.parts.filter (fun part => part.position == position)
      = parts.filter fun part => part.keyName == group.name && part.position == position
  perm_flatMap_parts : (groups.flatMap KeyGroup.parts).Perm parts

theorem eq_of_mem_collect {group : KeyGroup} (h : group ∈ collect parts) :
    group.parts = partsNamed group.name parts := by
  obtain ⟨name, -, rfl⟩ := List.mem_map.1 h
  rfl

theorem isGrouping_collect (parts : List KeyPart) : IsGrouping parts (collect parts) where
  nodup_names := nodup_map_name_collect parts
  mem_names_iff name := by
    rw [map_name_collect, List.mem_eraseDups, List.mem_map]
  firstAppearance := by
    have hnames := pairwise_idxOf_eraseDups (parts.map KeyPart.keyName)
    rw [← map_name_collect, List.pairwise_map] at hnames
    exact hnames
  perm_parts group hgroup := by
    rw [eq_of_mem_collect hgroup]
    exact partsNamed_perm group.name parts
  ascending group hgroup := by
    rw [eq_of_mem_collect hgroup]
    exact pairwise_partsNamed group.name parts
  stable group hgroup position := by
    rw [eq_of_mem_collect hgroup]
    exact filter_position_partsNamed group.name parts position
  perm_flatMap_parts := flatMap_parts_collect parts

theorem position_le_of_mem {first : KeyPart} {rest : List KeyPart}
    (hrest : ∀ part ∈ rest, first.position ≤ part.position) (hmem : part ∈ first :: rest) :
    first.position ≤ part.position := by
  rcases List.mem_cons.1 hmem with rfl | hmem
  · exact UInt32.le_refl _
  · exact hrest part hmem

/-- Parts by position are known from the parts at each position. -/
theorem eq_of_filter_position {first second : List KeyPart}
    (hfirst : first.Pairwise fun a b => a.position ≤ b.position)
    (hsecond : second.Pairwise fun a b => a.position ≤ b.position) (hperm : first.Perm second)
    (hfilter : ∀ position, first.filter (fun part => part.position == position)
      = second.filter fun part => part.position == position) : first = second := by
  induction first generalizing second with
  | nil => exact (List.nil_perm.1 hperm).symm
  | cons a first ih =>
    cases second with
    | nil => exact absurd hperm.length_eq (Nat.succ_ne_zero _)
    | cons b second =>
      rw [List.pairwise_cons] at hfirst hsecond
      -- both begin with a part at the least position, and the parts there begin alike
      have hposition : b.position = a.position :=
        UInt32.le_antisymm
          (position_le_of_mem hsecond.1 (hperm.mem_iff.1 List.mem_cons_self))
          (position_le_of_mem hfirst.1 (hperm.mem_iff.2 List.mem_cons_self))
      have hhead : a = b := by
        have hthere := hfilter a.position
        rw [List.filter_cons, List.filter_cons, if_pos (beq_self_eq_true a.position),
          if_pos (beq_iff_eq.2 hposition)] at hthere
        exact (List.cons.inj hthere).1
      subst hhead
      rw [ih hfirst.2 hsecond.2 hperm.cons_inv]
      intro position
      have hthere := hfilter position
      rw [List.filter_cons, List.filter_cons] at hthere
      split at hthere
      · exact (List.cons.inj hthere).2
      · exact hthere

theorem IsGrouping.parts_eq (h : IsGrouping parts groups) {group : KeyGroup}
    (hgroup : group ∈ groups) : group.parts = partsNamed group.name parts := by
  refine eq_of_filter_position (h.ascending group hgroup) (pairwise_partsNamed group.name parts)
    ((h.perm_parts group hgroup).trans (partsNamed_perm group.name parts).symm) fun position => ?_
  rw [h.stable group hgroup position, filter_position_partsNamed]

theorem IsGrouping.names_eq (h : IsGrouping parts groups) :
    groups.map name = (parts.map KeyPart.keyName).eraseDups := by
  have hmem : ∀ name, name ∈ groups.map KeyGroup.name
      ↔ name ∈ (parts.map KeyPart.keyName).eraseDups := by
    intro name
    rw [h.mem_names_iff, List.mem_eraseDups, List.mem_map]
  have hperm := (List.perm_ext_iff_of_nodup h.nodup_names (nodup_eraseDups _)).2 hmem
  have hinOrder : (groups.map name).Pairwise fun a b =>
      (parts.map KeyPart.keyName).idxOf a < (parts.map KeyPart.keyName).idxOf b := by
    rw [List.pairwise_map]
    exact h.firstAppearance
  refine List.Perm.eq_of_pairwise ?_ hinOrder (pairwise_idxOf_eraseDups _) hperm
  intro a b _ _ hab hba
  exact absurd hab (Nat.lt_asymm hba)

/-- **There is one way to regroup key parts.** -/
theorem IsGrouping.eq_collect (h : IsGrouping parts groups) : groups = collect parts := by
  have hgroups : (groups.map name).map (fun name => ⟨name, partsNamed name parts⟩) = groups := by
    rw [List.map_map]
    refine (List.map_congr_left fun group hgroup => ?_).trans (List.map_id groups)
    rw [Function.comp_apply, ← h.parts_eq hgroup]
    rfl
  rw [← hgroups, h.names_eq]
  rfl

/-- Parts in another order give the same groups in another order. -/
theorem collect_perm_of_perm {others : List KeyPart} (hperm : others.Perm parts)
    (hplaced : ArePlaced parts) : (collect others).Perm (collect parts) := by
  have hnames : (others.map KeyPart.keyName).eraseDups.Perm
      (parts.map KeyPart.keyName).eraseDups := by
    rw [List.perm_ext_iff_of_nodup (nodup_eraseDups _) (nodup_eraseDups _)]
    intro name
    rw [List.mem_eraseDups, List.mem_eraseDups]
    exact (hperm.map KeyPart.keyName).mem_iff
  have hgroups : collect others
      = (others.map KeyPart.keyName).eraseDups.map fun name => ⟨name, partsNamed name parts⟩ := by
    refine List.map_congr_left fun name _ => ?_
    rw [partsNamed_eq_of_perm hperm hplaced name]
  rw [hgroups]
  exact hnames.map _

/-- **Key parts are regrouped faithfully**, and there is one way to do that.  Where parts of one key
    have positions of their own their order counts for nothing but the order of the groups: each
    group, what it is for, how it is indexed and its columns stay what they are. -/
theorem collect_faithful (parts : List KeyPart) :
    IsGrouping parts (collect parts)
      ∧ (∀ groups, IsGrouping parts groups → groups = collect parts)
      ∧ ∀ others : List KeyPart, others.Perm parts → ArePlaced parts →
          ((collect others).map fun group => (group, group.kind, group.method, group.columns)).Perm
            ((collect parts).map fun group =>
              (group, group.kind, group.method, group.columns)) := by
  refine ⟨isGrouping_collect parts, fun groups h => h.eq_collect, ?_⟩
  intro others hperm hplaced
  exact (collect_perm_of_perm hperm hplaced).map _

/-- The parts of two keys, interleaved and the first of them backwards. -/
def interleavedParts : List KeyPart :=
  [.ascending "people" "name" 2 "first_name" true, .ascending "people" "PRIMARY" 1 "id" false,
    .ascending "people" "name" 1 "last_name" true]

/-- The parts of the second key come first. -/
def reorderedParts : List KeyPart :=
  [.ascending "people" "PRIMARY" 1 "id" false, .ascending "people" "name" 1 "last_name" true,
    .ascending "people" "name" 2 "first_name" true]

theorem collect_faithful_interleaved :
    reorderedParts.Perm interleavedParts ∧ ArePlaced interleavedParts
      ∧ ((collect reorderedParts).map fun group =>
          (group, group.kind, group.method, group.columns)).Perm
        ((collect interleavedParts).map fun group =>
          (group, group.kind, group.method, group.columns)) := by
  have hperm : reorderedParts.Perm interleavedParts := by decide
  have hplaced : ArePlaced interleavedParts := by decide
  exact ⟨hperm, hplaced, (collect_faithful interleavedParts).2.2 reorderedParts hperm hplaced⟩

end KeyGroup
end SchemaDump
