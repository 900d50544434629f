import Mathlib.Data.List.Sort
import AlzheimerVPN.IpRange
import AlzheimerVPN.Rules

/-! The Android client's set of address ranges, kept in the order of the ranges'
first addresses. Adding and removing a range is union and difference of the
addresses, so that a list of included and excluded networks folds to the
addresses whose last network is an included one. -/
namespace AlzheimerVPN.Android

open List

/-- The order of the sorted set: by the first address, then by the last. -/
def IpRange.compareTo (r s : IpRange) : Prop :=
  r.start.number < s.start.number ∨
    (r.start.number = s.start.number ∧ r.last.number ≤ s.last.number)

instance : DecidableRel IpRange.compareTo := fun r s => by
  unfold IpRange.compareTo
  infer_instance

instance : Std.Total IpRange.compareTo := ⟨fun r s => by
  unfold IpRange.compareTo
  omega⟩

instance : IsTrans IpRange IpRange.compareTo := ⟨fun r s t hrs hst => by
  unfold IpRange.compareTo at *
  omega⟩

def CoveredBy (l : List IpRange) (a : Address) : Prop := ∃ r ∈ l, r.Covers a

section

variable (r : IpRange) (l m : List IpRange) (a : Address)

@[simp] lemma not_coveredBy_nil : ¬CoveredBy [] a := by simp [CoveredBy]

@[simp] lemma coveredBy_cons : CoveredBy (r::l) a ↔ r.Covers a ∨ CoveredBy l a := by
  simp [CoveredBy]

@[simp] lemma coveredBy_append : CoveredBy (l++m) a ↔ CoveredBy l a ∨ CoveredBy m a := by
  simp [CoveredBy,or_and_right,exists_or]

end

structure IpRangeSet where
  ranges : List IpRange
  sorted : ranges.Pairwise IpRange.compareTo

namespace IpRangeSet

def empty : IpRangeSet := ⟨[],List.Pairwise.nil⟩

variable (s : IpRangeSet)

def Covers (a : Address) : Prop := CoveredBy s.ranges a

/-- `+=` on the sorted set. -/
def insert (r : IpRange) : IpRangeSet :=
  if r ∈ s.ranges then s
  else ⟨s.ranges.orderedInsert IpRange.compareTo r,List.Pairwise.orderedInsert r _ s.sorted⟩

/-- The loop of `add`: the range to add at its end, unless a range that has all
of it was met, and the ranges that stay. -/
def addLoop : IpRange → List IpRange → Option IpRange × List IpRange
  | rangeToAdd,[] => (some rangeToAdd,[])
  | rangeToAdd,curRange::rest =>
    if rangeToAdd.last.number < curRange.start.number ∧ rangeToAdd.last.isMaxIp = false ∧
        rangeToAdd.last.inc ≠ curRange.start then
      (some rangeToAdd,curRange::rest)
    else
      match curRange.plus rangeToAdd with
      | some resultRange =>
        if resultRange = curRange then (none,curRange::rest) else addLoop resultRange rest
      | none => ((addLoop rangeToAdd rest).1,curRange::(addLoop rangeToAdd rest).2)

/-- The loop of `remove`: the ranges that stay and the pieces of the others. -/
def removeLoop (ipRange : IpRange) : List IpRange → List IpRange × List IpRange
  | [] => ([],[])
  | curRange::rest =>
    if ipRange.last.number < curRange.start.number then (curRange::rest,[])
    else
      match curRange.minus ipRange with
      | some resultRanges =>
        ((removeLoop ipRange rest).1,resultRanges++(removeLoop ipRange rest).2)
      | none => (curRange::(removeLoop ipRange rest).1,(removeLoop ipRange rest).2)

lemma start_le_of_sorted {cur : IpRange} {rest : List IpRange}
    (h : (cur::rest).Pairwise IpRange.compareTo) :
    ∀ q ∈ cur::rest, cur.start.number ≤ q.start.number := by
  refine forall_mem_cons.mpr ⟨le_rfl,fun q hq => ?_⟩
  have horder := (pairwise_cons.mp h).1 q hq
  unfold IpRange.compareTo at horder
  omega

lemma addLoop_sublist (r : IpRange) (l : List IpRange) : (addLoop r l).2.Sublist l := by
  induction l generalizing r with
  | nil => exact List.Sublist.refl _
  | cons cur rest ih =>
    unfold addLoop
    split
    · exact List.Sublist.refl _
    · split
      · split
        · exact List.Sublist.refl _
        · exact (ih _).trans (sublist_cons_self cur rest)
      · exact (ih r).cons_cons cur

lemma removeLoop_sublist (r : IpRange) (l : List IpRange) : (removeLoop r l).1.Sublist l := by
  induction l with
  | nil => exact List.Sublist.refl _
  | cons cur rest ih =>
    unfold removeLoop
    split
    · exact List.Sublist.refl _
    · split
      · exact ih.trans (sublist_cons_self cur rest)
      · exact ih.cons_cons cur

def add (ipRange : IpRange) : IpRangeSet :=
  let kept : IpRangeSet :=
    ⟨(addLoop ipRange s.ranges).2,s.sorted.sublist (addLoop_sublist ipRange s.ranges)⟩
  match (addLoop ipRange s.ranges).1 with
  | some rangeToAdd => kept.insert rangeToAdd
  | none => kept

def remove (ipRange : IpRange) : IpRangeSet :=
  let kept : IpRangeSet :=
    ⟨(removeLoop ipRange s.ranges).1,s.sorted.sublist (removeLoop_sublist ipRange s.ranges)⟩
  (removeLoop ipRange s.ranges).2.foldl insert kept

def subnets : List InetNetwork := s.ranges.flatMap IpRange.subnets

section

variable (s : IpRangeSet) (r : IpRange) (a : Address)

lemma covers_insert : (s.insert r).Covers a ↔ s.Covers a ∨ r.Covers a := by
  unfold insert
  split
  case isTrue hmem =>
    refine ⟨Or.inl,?_⟩
    rintro (h | h)
    · exact h
    · exact ⟨r,hmem,h⟩
  case isFalse =>
    simp only [Covers,CoveredBy,mem_orderedInsert,exists_eq_or_imp]
    exact or_comm

variable (l : List IpRange)

lemma covers_foldl_insert : (l.foldl insert s).Covers a ↔ s.Covers a ∨ CoveredBy l a := by
  induction l generalizing s with
  | nil => simp
  | cons r l ih => rw [foldl_cons,ih,covers_insert,or_assoc,coveredBy_cons]

/-- Whatever the loop joins or leaves, the addresses are those of the ranges and
of the range to add. -/
lemma covers_addLoop : CoveredBy (addLoop r l).2 a ∨ CoveredBy (addLoop r l).1.toList a ↔
      CoveredBy l a ∨ r.Covers a := by
  induction l generalizing r with
  | nil => simp [addLoop]
  | cons cur rest ih =>
    unfold addLoop
    split
    case isTrue => simp
    case isFalse =>
      split
      case h_1 joined hjoin =>
        have hcovers := IpRange.covers_plus (a := a) hjoin
        split
        case isTrue hsame =>
          -- the current range has all of the range to add
          rw [hsame] at hcovers
          clear ih
          simp only [Option.toList_none,not_coveredBy_nil,or_false,coveredBy_cons]
          tauto
        case isFalse =>
          rw [ih,hcovers,coveredBy_cons]
          clear ih
          tauto
      case h_2 =>
        have htail := ih r
        clear ih
        rw [coveredBy_cons,coveredBy_cons]
        tauto

lemma covers_add : (s.add r).Covers a ↔ s.Covers a ∨ r.Covers a := by
  have hloop := covers_addLoop r a s.ranges
  unfold add
  split
  case h_1 q hq =>
    rw [covers_insert,Covers,Covers,← hloop,hq]
    simp
  case h_2 hq =>
    rw [Covers,Covers,← hloop,hq]
    simp

/-- The loop stops where the rest of the ranges lies behind the range to remove. -/
lemma covers_removeLoop (hsorted : l.Pairwise IpRange.compareTo) :
    CoveredBy (removeLoop r l).1 a ∨ CoveredBy (removeLoop r l).2 a ↔
      CoveredBy l a ∧ ¬r.Covers a := by
  induction l with
  | nil => simp [removeLoop]
  | cons cur rest ih =>
    have htail := ih (pairwise_cons.mp hsorted).2
    clear ih
    unfold removeLoop
    split
    case isTrue hbehind =>
      have hclear : CoveredBy (cur::rest) a → ¬r.Covers a := by
        rintro ⟨q,hq,hqa⟩ hra
        have hle := start_le_of_sorted hsorted q hq
        unfold IpRange.Covers at hqa hra
        omega
      simp only [not_coveredBy_nil,or_false]
      exact ⟨fun h => ⟨h,hclear h⟩,And.left⟩
    case isFalse =>
      split
      case h_1 pieces hpieces =>
        have hcut : CoveredBy pieces a ↔ cur.Covers a ∧ ¬r.Covers a :=
          (IpRange.minus_eq_some hpieces).2 a
        rw [coveredBy_append,coveredBy_cons]
        tauto
      case h_2 hnone =>
        have hapart := IpRange.not_covers_of_minus_eq_none (a := a) hnone
        rw [coveredBy_cons,coveredBy_cons]
        tauto

lemma covers_remove : (s.remove r).Covers a ↔ s.Covers a ∧ ¬r.Covers a := by
  rw [remove,covers_foldl_insert]
  exact covers_removeLoop r a s.ranges s.sorted

/-- The last range that has the address decides. -/
lemma covers_foldl {ρ : Type*} (range : ρ → IpRange) (adds : ρ → Bool) (l : List ρ) :
    (l.foldl (fun s c => if adds c then s.add (range c) else s.remove (range c)) empty).Covers a ↔
      Rules.verdict (fun c a => decide ((range c).Covers a)) adds l a := by
  induction l using List.reverseRecOn with
  | nil => simp [Covers,empty,Rules.verdict]
  | append_singleton l c ih =>
    rw [foldl_append,foldl_cons,foldl_nil,Rules.verdict_concat]
    cases adds c with
    | true =>
      rw [if_pos rfl,covers_add,ih]
      by_cases hc : (range c).Covers a <;> simp [hc]
    | false =>
      rw [if_neg (by simp),covers_remove,ih]
      by_cases hc : (range c).Covers a <;> simp [hc]

lemma contains_subnets : (∃ n ∈ s.subnets, n.contains a) ↔ s.Covers a := by
  simp only [subnets,mem_flatMap,Covers,CoveredBy,← IpRange.contains_subnets]
  constructor
  · rintro ⟨n,⟨r,hr,hn⟩,hna⟩
    exact ⟨r,hr,n,hn,hna⟩
  · rintro ⟨r,hr,n,hn,hna⟩
    exact ⟨n,⟨r,hr,hn⟩,hna⟩

end

section

variable {s : IpRangeSet} {q r : IpRange} {l : List IpRange}

/-- The loop keeps the ranges apart, and what is apart from all of them. -/
lemma addLoop_apart (hl : l.Pairwise IpRange.Apart) (hsorted : l.Pairwise IpRange.compareTo) :
    ((addLoop r l).2++(addLoop r l).1.toList).Pairwise IpRange.Apart ∧
      ∀ q : IpRange, q.Apart r → (∀ k ∈ l, q.Apart k) →
        ∀ k ∈ (addLoop r l).2++(addLoop r l).1.toList, q.Apart k := by
  induction l generalizing r with
  | nil => simp [addLoop]
  | cons cur rest ih =>
    obtain ⟨hcur,hrest⟩ := pairwise_cons.mp hl
    have hsorted' := (pairwise_cons.mp hsorted).2
    simp only [forall_mem_cons]
    unfold addLoop
    split
    case isTrue hbreak =>
      have hnext : r.last.number+1 ≠ cur.start.number := fun heq =>
        hbreak.2.2 (Address.number_injective ((Address.number_inc hbreak.2.1).trans heq))
      refine ⟨pairwise_append.mpr ⟨hl,pairwise_singleton _ _,fun k hk joined hj => ?_⟩,
        fun q hr hq => ?_⟩
      · have hle := start_le_of_sorted hsorted k hk
        rw [mem_singleton.mp hj]
        exact .inr (IpRange.separate_iff.mpr (.inl (by omega)))
      · simpa [or_imp,forall_and] using ⟨hq.1,hq.2,hr⟩
    case isFalse =>
      split
      case h_1 joined hjoin =>
        split
        case isTrue => simpa using ⟨hcur,hrest⟩
        case isFalse =>
          obtain ⟨hapart,hkept⟩ := @ih joined hrest hsorted'
          exact ⟨hapart,fun q hr hq => hkept q (hq.1.plus hr hjoin) hq.2⟩
      case h_2 hnone =>
        obtain ⟨hapart,hkept⟩ := @ih r hrest hsorted'
        refine ⟨pairwise_cons.mpr ⟨hkept cur ?_ hcur,hapart⟩,fun q hr hq => ?_⟩
        · exact IpRange.apart_of_plus_eq_none hnone
        · exact forall_mem_cons.mpr ⟨hq.1,hkept q hr hq.2⟩

lemma removeLoop_apart (hl : l.Pairwise IpRange.Apart) :
    ((removeLoop r l).1++(removeLoop r l).2).Pairwise IpRange.Apart ∧
      ∀ q : IpRange, (∀ k ∈ l, q.Apart k) →
        ∀ k ∈ (removeLoop r l).1++(removeLoop r l).2, q.Apart k := by
  induction l with
  | nil => simp [removeLoop]
  | cons cur rest ih =>
    obtain ⟨hcur,hrest⟩ := pairwise_cons.mp hl
    obtain ⟨hapart,hkept⟩ := ih hrest
    unfold removeLoop
    split
    case isTrue => simpa using ⟨hcur,hrest⟩
    case isFalse =>
      simp only [forall_mem_cons]
      split
      case h_1 pieces hpieces =>
        have hpart := IpRange.part_of_minus hpieces
        have hperm := perm_append_comm_assoc (removeLoop r rest).1 pieces (removeLoop r rest).2
        refine ⟨(hperm.pairwise_iff Or.symm).mpr (pairwise_append.mpr
          ⟨(IpRange.minus_eq_some hpieces).1.imp Or.inl,hapart,fun p hp => ?_⟩),fun q hq k hk => ?_⟩
        · exact hkept p fun k hk => (IpRange.Apart.part (hcur k hk).symm (hpart p hp)).symm
        · rcases mem_append.mp (hperm.mem_iff.mp hk) with hk | hk
          · exact hq.1.part (hpart k hk)
          · exact hkept q hq.2 k hk
      case h_2 =>
        exact ⟨pairwise_cons.mpr ⟨hkept cur hcur,hapart⟩,fun q hq =>
          forall_mem_cons.mpr ⟨hq.1,hkept q hq.2⟩⟩

lemma insert_apart (h : (s.ranges++r::l).Pairwise IpRange.Apart) :
    ((s.insert r).ranges++l).Pairwise IpRange.Apart := by
  unfold insert
  split
  · exact h.sublist ((sublist_cons_self r l).append_left _)
  · have hperm := ((perm_orderedInsert IpRange.compareTo r s.ranges).append_right l).trans
      perm_middle.symm
    exact (hperm.pairwise_iff Or.symm).mpr h

lemma foldl_insert_apart (h : (s.ranges++l).Pairwise IpRange.Apart) :
    (l.foldl insert s).ranges.Pairwise IpRange.Apart := by
  induction l generalizing s with
  | nil => simpa using h
  | cons r l ih => exact ih (insert_apart h)

structure Call where
  range : IpRange
  adds : Bool

def call (s : IpRangeSet) (c : Call) : IpRangeSet :=
  if c.adds then s.add c.range else s.remove c.range

lemma call_apart (s : IpRangeSet) (c : Call) (h : s.ranges.Pairwise IpRange.Apart) :
    (s.call c).ranges.Pairwise IpRange.Apart := by
  rw [call]
  split
  · have hloop := (addLoop_apart (r := c.range) h s.sorted).1
    rw [add]
    split
    case h_1 joined hjoined =>
      rw [hjoined] at hloop
      refine foldl_insert_apart (l := [joined]) ?_
      exact hloop
    case h_2 hnone => simpa [hnone] using hloop
  · exact foldl_insert_apart (removeLoop_apart h).1

/-- After any calls the ranges are sorted, and no two of them meet or are next to each other; an
address is in one of them exactly if the last call whose range has it has added it. No call
asks for an address that does not exist. -/
theorem calls_normal (calls : List Call) :
    (calls.foldl call empty).ranges.Pairwise IpRange.Separate ∧
      (∀ a, (calls.foldl call empty).Covers a ↔
        Rules.verdict (fun c a => decide (c.range.Covers a)) Call.adds calls a) ∧
      ∀ r other : IpRange, ¬r.Overflows other := by
  refine ⟨?_,fun a => covers_foldl a Call.range Call.adds calls,IpRange.not_overflows⟩
  have hapart : ∀ s : IpRangeSet, s.ranges.Pairwise IpRange.Apart →
      (calls.foldl call s).ranges.Pairwise IpRange.Apart := by
    induction calls with
    | nil => exact fun s h => h
    | cons c calls ih => exact fun s h => ih _ (call_apart s c h)
  refine ((calls.foldl call empty).sorted.and (hapart empty .nil)).imp ?_
  rintro r q ⟨horder,hseparate | hseparate⟩
  · exact hseparate
  · have hr := r.ordered
    have hq := q.ordered
    unfold IpRange.compareTo at horder
    exact absurd hseparate.1 (by omega)

end

end IpRangeSet
end AlzheimerVPN.Android
