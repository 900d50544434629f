import AlzheimerVPN.Json
import AlzheimerVPN.Replacement

/-! The compact text of a JSON document, as `QJsonDocument::toJson` writes it. The fields of an
object are written in the order of the list; `QJsonObject` keeps them sorted by their keys. -/
namespace AlzheimerVPN

open Replacement List

/-- How numbers are written: the shortest decimal text that reads back as the same double. -/
class JsonNumbers where
  text : ℚ → List Char
  chars : ∀ q, ∀ c ∈ text q, c.isDigit ∨ c = '-' ∨ c = '+' ∨ c = '.' ∨ c = 'e'
  one_point : ∀ q, (text q).count '.' ≤ 1

namespace Json

/-- The place of a value in a document, from the inside out. -/
inductive PathStep
  | key (key : String) | item
  deriving DecidableEq, Repr

abbrev Path := List PathStep

def hexDigit (n : ℕ) : Char := Nat.digitChar n

def escapeChar (c : Char) : List Char :=
  if c = '"' then ['\\','"']
  else if c = '\\' then ['\\','\\']
  else if c.toNat = 8 then ['\\','b']
  else if c.toNat = 12 then ['\\','f']
  else if c.toNat = 10 then ['\\','n']
  else if c.toNat = 13 then ['\\','r']
  else if c.toNat = 9 then ['\\','t']
  else if c.toNat < 32 then ['\\','u','0','0',hexDigit (c.toNat/16),hexDigit (c.toNat%16)]
  else [c]

def escapedString (s : String) : List Char := s.toList.flatMap escapeChar

/-- What may follow a backslash. -/
def escapeLetters : List Char := ['"','\\','b','f','n','r','t','u']

/-- A text between quotes does not hold the closing one; the flag stands for a backslash
before the text. -/
def Closed : Bool → List Char → Prop
  | escaped, [] => escaped = false
  | true, c::cs => c ∈ escapeLetters ∧ Closed false cs
  | false, c::cs => c ≠ '"' ∧ Closed (c = '\\') cs

lemma Closed.append {b : Bool} {x y : List Char} (hx : Closed b x) (hy : Closed false y) :
    Closed b (x++y) := by
  induction x generalizing b with
  | nil =>
    obtain rfl : b = false := hx
    exact hy
  | cons c cs ih =>
    cases b with
    | true => exact ⟨hx.1,ih hx.2⟩
    | false => exact ⟨hx.1,ih hx.2⟩

lemma closed_of_plain {x : List Char} (h : ∀ c ∈ x, c ≠ '"' ∧ c ≠ '\\') : Closed false x := by
  induction x with
  | nil => rfl
  | cons c cs ih =>
    obtain ⟨hc,hcs⟩ := List.forall_mem_cons.mp h
    refine ⟨hc.1,?_⟩
    rw [decide_eq_false hc.2]
    exact ih hcs

lemma hexDigit_plain {n : ℕ} (h : n < 16) : hexDigit n ≠ '"' ∧ hexDigit n ≠ '\\' := by
  have hall : ∀ n < 16, Nat.digitChar n ≠ '"' ∧ Nat.digitChar n ≠ '\\' := by decide
  exact hall n h

lemma closed_pair {c : Char} (h : c ∈ escapeLetters) : Closed false ['\\',c] :=
  ⟨by decide,h,rfl⟩

lemma closed_escapeChar (c : Char) : Closed false (escapeChar c) := by
  rw [escapeChar]
  split_ifs with hquote hslash _ _ _ _ _ hcontrol
  iterate 7 exact closed_pair (by decide)
  · have hfirst := hexDigit_plain (n := c.toNat/16) (by omega)
    have hsecond := hexDigit_plain (n := c.toNat%16) (by omega)
    refine ⟨by decide,by decide,?_⟩
    refine closed_of_plain ?_
    simp [hfirst,hsecond]
  · exact closed_of_plain (by simp [hquote,hslash])

lemma closed_escapedString (s : String) : Closed false (escapedString s) := by
  rw [escapedString]
  induction s.toList with
  | nil => rfl
  | cons c cs ih => exact (closed_escapeChar c).append ih

/-- Closed texts are told apart by what stands before the closing quote. -/
lemma Closed.inj {b : Bool} {x y r s : List Char} (hx : Closed b x) (hy : Closed b y)
    (h : x++ '"'::r = y++ '"'::s) : x = y ∧ r = s := by
  induction x generalizing b y with
  | nil =>
    obtain rfl : b = false := hx
    cases y with
    | nil => exact ⟨rfl,(List.cons.inj h).2⟩
    | cons d ds => exact absurd (List.cons.inj h).1.symm hy.1
  | cons c cs ih =>
    cases y with
    | nil =>
      obtain rfl : b = false := hy
      exact absurd (List.cons.inj h).1 hx.1
    | cons d ds =>
      obtain ⟨rfl,hrest⟩ := List.cons.inj h
      have hcs : ∃ b, Closed b cs ∧ Closed b ds := by
        cases b with
        | true => exact ⟨false,hx.2,hy.2⟩
        | false => exact ⟨_,hx.2,hy.2⟩
      obtain ⟨b,hcs,hds⟩ := hcs
      obtain ⟨rfl,hr⟩ := ih hcs hds hrest
      exact ⟨rfl,hr⟩

section

variable [JsonNumbers] (key : String → List Char) (value : Path → String → List Char)

mutual

/-- The text of a document, with the texts of its keys and of its strings given. -/
def render (path : Path) : Json → List Char
  | .undefined => ['n','u','l','l']
  | .null => ['n','u','l','l']
  | .bool true => ['t','r','u','e']
  | .bool false => ['f','a','l','s','e']
  | .num q => JsonNumbers.text q
  | .str s => '"'::(value path s++['"'])
  | .arr items => '['::(renderItems path true items++[']'])
  | .obj fields => '{'::(renderFields path true fields++['}'])

def renderItems (path : Path) (first : Bool) : List Json → List Char
  | [] => []
  | v::items =>
    (if first then [] else [','])++(render (.item::path) v++renderItems path false items)

def renderFields (path : Path) (first : Bool) : List (String × Json) → List Char
  | [] => []
  | (k,v)::fields =>
    (if first then [] else [','])++
      ('"'::(key k++ '"':: ':'::(render (.key k::path) v++renderFields path false fields)))

end

/-- `QJsonDocument::toJson` with `QJsonDocument::Compact`. -/
def toJson (v : Json) : List Char := render escapedString (fun _ s => escapedString s) [] v

mutual

/-- The same document with other strings. -/
def relabel (label : Path → String → String) (path : Path) : Json → Json
  | .undefined => .undefined
  | .null => .null
  | .bool b => .bool b
  | .num q => .num q
  | .str s => .str (label path s)
  | .arr items => .arr (relabelItems label path items)
  | .obj fields => .obj (relabelFields label path fields)

def relabelItems (label : Path → String → String) (path : Path) : List Json → List Json
  | [] => []
  | v::items => relabel label (.item::path) v::relabelItems label path items

def relabelFields (label : Path → String → String) (path : Path) :
    List (String × Json) → List (String × Json)
  | [] => []
  | (k,v)::fields => (k,relabel label (.key k::path) v)::relabelFields label path fields

end

mutual

/-- What holds of every key and of every string in its place. -/
def AllStrings (K : String → Prop) (V : Path → String → Prop) (path : Path) : Json → Prop
  | .undefined => True
  | .null => True
  | .bool _ => True
  | .num _ => True
  | .str s => V path s
  | .arr items => AllItems K V path items
  | .obj fields => AllFields K V path fields

def AllItems (K : String → Prop) (V : Path → String → Prop) (path : Path) : List Json → Prop
  | [] => True
  | v::items => AllStrings K V (.item::path) v ∧ AllItems K V path items

def AllFields (K : String → Prop) (V : Path → String → Prop) (path : Path) :
    List (String × Json) → Prop
  | [] => True
  | (k,v)::fields => K k ∧ AllStrings K V (.key k::path) v ∧ AllFields K V path fields

end

variable {key value} {label : Path → String → String}

mutual

lemma render_relabel (path : Path) (v : Json) : render key value path (relabel label path v) =
      render key (fun path s => value path (label path s)) path v := by
  cases v with
  | undefined => rfl
  | null => rfl
  | bool b => cases b <;> rfl
  | num q => rfl
  | str s => rfl
  | arr items => rw [relabel,render,render,renderItems_relabel path true items]
  | obj fields => rw [relabel,render,render,renderFields_relabel path true fields]

lemma renderItems_relabel (path : Path) (first : Bool) (items : List Json) :
    renderItems key value path first (relabelItems label path items) =
      renderItems key (fun path s => value path (label path s)) path first items := by
  cases items with
  | nil => rfl
  | cons v items =>
    rw [relabelItems,renderItems,renderItems,render_relabel _ v,
      renderItems_relabel path false items]

lemma renderFields_relabel (path : Path) (first : Bool) (fields : List (String × Json)) :
    renderFields key value path first (relabelFields label path fields) =
      renderFields key (fun path s => value path (label path s)) path first fields := by
  cases fields with
  | nil => rfl
  | cons f fields =>
    obtain ⟨k,v⟩ := f
    rw [relabelFields,renderFields,renderFields,render_relabel _ v,
      renderFields_relabel path false fields]

end

section

/-- The texts of the keys and strings end at their closing quotes. -/
structure ClosedParts (key : String → List Char) (value : Path → String → List Char) : Prop where
  key : ∀ k, Closed false (key k)
  value : ∀ p s, Closed false (value p s)

variable {key' : String → List Char} {value' : Path → String → List Char}

mutual

/-- Two texts of a document with closed parts are the same if their parts are. -/
lemma render_append_eq_iff (h : ClosedParts key value) (h' : ClosedParts key' value')
    (path : Path) (v : Json) (r r' : List Char) :
    render key value path v++r = render key' value' path v++r' ↔
      AllStrings (fun k => key k = key' k) (fun p s => value p s = value' p s) path v ∧ r = r' := by
  cases v with
  | undefined => simp [render,AllStrings]
  | null => simp [render,AllStrings]
  | bool b => cases b <;> simp [render,AllStrings]
  | num q => simp [render,AllStrings]
  | str s =>
    simp only [render,AllStrings,List.cons_append,List.append_assoc,List.cons.injEq,true_and]
    constructor
    · intro heq
      exact (h.value path s).inj (h'.value path s) heq
    · rintro ⟨hs,hr⟩
      rw [hs,hr]
  | arr items =>
    have hitems := renderItems_append_eq_iff h h' path true items (']'::r) (']'::r')
    simpa [render,AllStrings] using hitems
  | obj fields =>
    have hfields := renderFields_append_eq_iff h h' path true fields ('}'::r) ('}'::r')
    simpa [render,AllStrings] using hfields

lemma renderItems_append_eq_iff (h : ClosedParts key value) (h' : ClosedParts key' value')
    (path : Path) (first : Bool) (items : List Json) (r r' : List Char) :
    renderItems key value path first items++r = renderItems key' value' path first items++r' ↔
      AllItems (fun k => key k = key' k) (fun p s => value p s = value' p s) path items ∧
        r = r' := by
  cases items with
  | nil => simp [renderItems,AllItems]
  | cons v items =>
    simp only [renderItems,AllItems,List.append_assoc,List.append_cancel_left_eq]
    rw [render_append_eq_iff h h' _ v,renderItems_append_eq_iff h h' path false items,and_assoc]

lemma renderFields_append_eq_iff (h : ClosedParts key value) (h' : ClosedParts key' value')
    (path : Path) (first : Bool) (fields : List (String × Json)) (r r' : List Char) :
    renderFields key value path first fields++r = renderFields key' value' path first fields++r' ↔
      AllFields (fun k => key k = key' k) (fun p s => value p s = value' p s) path fields ∧
        r = r' := by
  cases fields with
  | nil => simp [renderFields,AllFields]
  | cons f fields =>
    obtain ⟨k,v⟩ := f
    simp only [renderFields,AllFields,List.append_assoc,List.append_cancel_left_eq,
      List.cons_append,List.cons.injEq,true_and]
    constructor
    · intro heq
      obtain ⟨hk,heq⟩ := (h.key k).inj (h'.key k) heq
      obtain ⟨hv,heq⟩ := (render_append_eq_iff h h' _ v _ _).mp (List.cons.inj heq).2
      obtain ⟨hf,hr⟩ := (renderFields_append_eq_iff h h' path false fields _ _).mp heq
      exact ⟨⟨hk,hv,hf⟩,hr⟩
    · rintro ⟨⟨hk,hv,hf⟩,hr⟩
      have hrest := (renderFields_append_eq_iff h h' path false fields r r').mpr ⟨hf,hr⟩
      rw [hk,(render_append_eq_iff h h' _ v _ _).mpr ⟨hv,hrest⟩]

end

end

section

/-- The characters that a replacement must not touch if texts are to stay apart. -/
def marks : List Char := ['[',']','{','}',',',':']++escapeLetters

/-- A text that occurs in a document only inside its keys and its strings. -/
structure Inert (same : Char → Char → Bool) (sub : List Char) : Prop where
  ne_nil : sub ≠ []
  marks : ∀ c ∈ marks, ∀ p ∈ sub, same p c = false
  words : ∀ word ∈ [['n','u','l','l'],['t','r','u','e'],['f','a','l','s','e']],
    contains same sub word = false
  numbers : ∀ q, contains same sub (JsonNumbers.text q) = false

variable {same : Char → Char → Bool} {sub new : List Char}

omit [JsonNumbers] in
/-- The marks as a check that runs over the two lists, not over all characters. -/
lemma apart_of_all (h : (marks.all fun c => sub.all fun p => !same p c)) :
    ∀ c ∈ marks, ∀ p ∈ sub, same p c = false := by
  simpa only [List.all_eq_true,Bool.not_eq_true'] using h

lemma Inert.append_mark (h : Inert same sub) {c : Char} (hc : c ∈ Json.marks) (x y : List Char) :
    replace same sub new 0 (x++c::y) = replace same sub new 0 x++c::replace same sub new 0 y :=
  replace_append_sep new h.ne_nil (h.marks c hc) x y

lemma Inert.cons_mark (h : Inert same sub) {c : Char} (hc : c ∈ Json.marks) (y : List Char) :
    replace same sub new 0 (c::y) = c::replace same sub new 0 y :=
  h.append_mark hc [] y

variable (new) in
lemma Inert.replace_field (h : Inert same sub) (x y : List Char) :
    replace same sub new 0 ('"'::(x++ '"':: ':'::y)) =
      '"'::(replace same sub new 0 x++ '"':: ':'::replace same sub new 0 y) := by
  rw [h.cons_mark (by decide),h.append_mark (by decide),h.cons_mark (by decide)]

variable (key value) in
lemma head_renderItems (h : Inert same sub) (path : Path) (items : List Json) :
    ∀ c ∈ (renderItems key value path false items).head?, ∀ p ∈ sub, same p c = false := by
  cases items with
  | nil => simp [renderItems]
  | cons v items =>
    rintro c ⟨rfl⟩
    exact h.marks ',' (by decide)

variable (key value) in
lemma head_renderFields (h : Inert same sub) (path : Path) (fields : List (String × Json)) :
    ∀ c ∈ (renderFields key value path false fields).head?, ∀ p ∈ sub, same p c = false := by
  cases fields with
  | nil => simp [renderFields]
  | cons f fields =>
    rintro c ⟨rfl⟩
    exact h.marks ',' (by decide)

mutual

/-- A replacement in the text of a document is one in its keys and strings. -/
lemma replace_render (h : Inert same sub) (path : Path) (v : Json) :
    replace same sub new 0 (render key value path v) =
      render (fun k => replace same sub new 0 (key k))
        (fun p s => replace same sub new 0 (value p s)) path v := by
  cases v with
  | undefined => exact replace_eq_self (x := ['n','u','l','l']) (h.words _ (by simp))
  | null => exact replace_eq_self (x := ['n','u','l','l']) (h.words _ (by simp))
  | bool b =>
    cases b with
    | true => exact replace_eq_self (x := ['t','r','u','e']) (h.words _ (by simp))
    | false => exact replace_eq_self (x := ['f','a','l','s','e']) (h.words _ (by simp))
  | num q => exact replace_eq_self (h.numbers q)
  | str s =>
    rw [render,h.cons_mark (by decide),h.append_mark (by decide)]
    rfl
  | arr items =>
    rw [render,h.cons_mark (by decide),h.append_mark (by decide),
      replace_renderItems h path true items]
    rfl
  | obj fields =>
    rw [render,h.cons_mark (by decide),h.append_mark (by decide),
      replace_renderFields h path true fields]
    rfl

lemma replace_renderItems (h : Inert same sub) (path : Path) (first : Bool) (items : List Json) :
    replace same sub new 0 (renderItems key value path first items) =
      renderItems (fun k => replace same sub new 0 (key k))
        (fun p s => replace same sub new 0 (value p s)) path first items := by
  cases items with
  | nil => rfl
  | cons v items =>
    have hrest := replace_append new h.ne_nil
      (head_renderItems key value h path items) (render key value (.item::path) v)
    rw [replace_render h _ v,replace_renderItems h path false items] at hrest
    cases first with
    | true => exact hrest
    | false => exact (h.cons_mark (by decide) _).trans (congrArg _ hrest)

lemma replace_renderFields (h : Inert same sub) (path : Path) (first : Bool)
    (fields : List (String × Json)) :
    replace same sub new 0 (renderFields key value path first fields) =
      renderFields (fun k => replace same sub new 0 (key k))
        (fun p s => replace same sub new 0 (value p s)) path first fields := by
  cases fields with
  | nil => rfl
  | cons f fields =>
    obtain ⟨k,v⟩ := f
    have hrest := replace_append new h.ne_nil (head_renderFields key value h path fields)
      (render key value (.key k::path) v)
    rw [replace_render h _ v,replace_renderFields h path false fields] at hrest
    have hfield := h.replace_field new (key k)
      (render key value (.key k::path) v++renderFields key value path false fields)
    rw [hrest] at hfield
    cases first with
    | true => exact hfield
    | false => exact (h.cons_mark (by decide) _).trans (congrArg (','::·) hfield)

end

lemma Inert.closed_drop (h : Inert same sub) {x ps : List Char} (hps : ps ⊆ sub)
    (hstart : startsWith same ps x) (hx : Closed false x) : Closed false (x.drop ps.length) := by
  induction ps generalizing x with
  | nil => exact hx
  | cons p ps ih =>
    cases x with
    | nil => simp [startsWith] at hstart
    | cons c cs =>
      obtain ⟨hp,hcs⟩ := (Bool.and_eq_true _ _).mp hstart
      have hc : c ≠ '\\' := by
        rintro rfl
        simp [h.marks '\\' (by decide) p (hps List.mem_cons_self)] at hp
      obtain ⟨-,hclosed⟩ := hx
      rw [decide_eq_false hc] at hclosed
      exact ih (List.subset_of_cons_subset hps) hcs hclosed

/-- A closed text stays closed. -/
lemma Inert.closed_replace (h : Inert same sub) (hnew : ∀ c ∈ new, c ≠ '"' ∧ c ≠ '\\')
    {b : Bool} {x : List Char} (hx : Closed b x) : Closed b (replace same sub new 0 x) := by
  refine replace_induction (P := fun x r => ∀ b, Closed b x → Closed b r) h.ne_nil
    (fun _ hb => hb) ?_ ?_ x b hx
  · intro x hne hstart ih b hx
    cases b with
    | false =>
      have hrest := ih false (h.closed_drop (List.Subset.refl _) hstart hx)
      exact (closed_of_plain hnew).append hrest
    | true =>
      -- What follows a backslash is in no occurrence.
      obtain ⟨p,ps,hsub⟩ := exists_cons_of_ne_nil h.ne_nil
      obtain ⟨c,cs,rfl⟩ := exists_cons_of_ne_nil hne
      rw [hsub] at hstart
      have hp := ((Bool.and_eq_true _ _).mp hstart).1
      have hc := h.marks c (mem_append_right _ hx.1) p (hsub ▸ mem_cons_self)
      simp [hc] at hp
  · intro c x _ ih b hx
    cases b with
    | true => exact ⟨hx.1,ih _ hx.2⟩
    | false => exact ⟨hx.1,ih _ hx.2⟩

end

end

end Json

end AlzheimerVPN
