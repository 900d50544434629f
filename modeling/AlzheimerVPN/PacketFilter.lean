import Mathlib.Data.List.Basic

/-! Rule evaluation of a packet filter in the manner of `pf`: the last rule that
applies decides, a quick rule decides at once, and a packet that no rule
applies to passes. -/
namespace AlzheimerVPN.PacketFilter

inductive Action
  | pass | block
  deriving DecidableEq, Repr

structure Rule (P : Type*) where
  action : Action
  quick : Bool
  applies : P → Bool

variable {P A : Type*}

/-- The decision of a rule list, given the decision of the rules before it. -/
def evaluate (p : P) : Action → List (Rule P) → Action
  | d, [] => d
  | d, r::rs =>
    if r.applies p then if r.quick then r.action else evaluate p r.action rs
    else evaluate p d rs

def verdict (rules : List (Rule P)) (p : P) : Action := evaluate p .pass rules

/-- The rules of the anchors that are switched on, in the order of the root file. -/
def ruleset (order : List A) (enabled : A → Bool) (file : A → List (Rule P)) : List (Rule P) :=
  order.flatMap fun a => if enabled a then file a else []

/-- No quick rule of the list applies, so a later rule may still overturn it. -/
def Open (p : P) (rules : List (Rule P)) : Prop :=
  ∀ r ∈ rules, r.quick → r.applies p = false

/-- The decision of the first rule that applies. -/
def firstMatch (p : P) (d : Action) : List (Rule P) → Action
  | [] => d
  | r::rs => if r.applies p then r.action else firstMatch p d rs

lemma firstMatch_append (p : P) (d : Action) (rs ss : List (Rule P)) :
    firstMatch p d (rs++ss) = firstMatch p (firstMatch p d ss) rs := by
  induction rs with
  | nil => rfl
  | cons r rs ih => simp [firstMatch,ih]

/-- Last match wins: read backwards, the first rule that applies decides. -/
lemma evaluate_eq_firstMatch {p : P} {d : Action} {rs : List (Rule P)} (ho : Open p rs) :
    evaluate p d rs = firstMatch p d rs.reverse := by
  induction rs generalizing d with
  | nil => rfl
  | cons r rs ih =>
    have ht : Open p rs := fun r' hr => ho r' (List.mem_cons_of_mem _ hr)
    have hq : r.applies p → r.quick = false := by
      intro ha
      by_contra hn
      have hf := ho r (by simp) (by simpa using hn)
      simp [ha] at hf
    rw [List.reverse_cons,firstMatch_append]
    by_cases ha : r.applies p
    · simp [evaluate,firstMatch,ha,hq ha,ih ht]
    · simp [evaluate,firstMatch,ha,ih ht]

lemma ruleset_of_list [DecidableEq A] {enabled : A → Bool} {on : List A}
    (h : ∀ a, enabled a = decide (a ∈ on)) (order : List A) (file : A → List (Rule P)) :
    ruleset order enabled file = (order.filter (· ∈ on)).flatMap file := by
  induction order with
  | nil => rfl
  | cons a order ih =>
    have hc : ruleset (a::order) enabled file =
        (if enabled a then file a else [])++ruleset order enabled file := rfl
    rw [hc,ih]
    by_cases ha : a ∈ on <;> simp [h a,ha]

end AlzheimerVPN.PacketFilter
