import Mathlib.Data.List.Basic
import Mathlib.Data.List.DropRight
import Mathlib.Tactic

/-!
# Slash-separated paths

The lexical operations on the paths of a file system whose separator is the slash. A path is what
stands between its slashes: a dot stays where it is and two dots go up. A location is an absolute
path in its shortest form, and every absolute path names one.
-/

namespace Paths

abbrev Path := List Char

def dot : Path := ['.']
def dotDot : Path := ['.', '.']

/-- A name that a directory can give to an entry. -/
structure IsName (e : Path) : Prop where
  nonempty : e ≠ []
  plain : '/' ∉ e
  ne_dot : e ≠ dot
  ne_dotDot : e ≠ dotDot

instance (e : Path) : Decidable (IsName e) :=
  decidable_of_iff (e ≠ [] ∧ '/' ∉ e ∧ e ≠ dot ∧ e ≠ dotDot)
    ⟨fun h => ⟨h.1, h.2.1, h.2.2.1, h.2.2.2⟩, fun h => ⟨h.1, h.2, h.3, h.4⟩⟩

/-- What stands between the slashes. -/
def elements (p : Path) : List Path := (p.splitOn '/').filter fun e => e ≠ []

/-- Two dots after these elements, the last one first. -/
def up (rooted : Bool) : List Path → List Path
  | [] => if rooted then [] else [dotDot]
  | top :: rest => if top = dotDot then dotDot :: top :: rest else rest

/-- One element more. -/
def push (rooted : Bool) (stack : List Path) (e : Path) : List Path :=
  if e = dot then stack else if e = dotDot then up rooted stack else e :: stack

def normalize (rooted : Bool) (es : List Path) : List Path := (es.foldl (push rooted) []).reverse

def isRooted (p : Path) : Bool := p.head? = some '/'

def render (rooted : Bool) (es : List Path) : Path :=
  if rooted then '/' :: ['/'].intercalate es
  else if es = [] then dot
  else ['/'].intercalate es

/-- The shortest path that is lexically the same. -/
def clean (p : Path) : Path := render (isRooted p) (normalize (isRooted p) (elements p))

def join (a b : Path) : Path :=
  if a ≠ [] then clean (a ++ '/' :: b) else if b ≠ [] then clean b else []

/-- An entry of a directory, where no element has to be looked at. -/
def joinPath (dir name : Path) : Path :=
  if dir.getLast? = some '/' then dir ++ name else dir ++ '/' :: name

/-- What follows the last slash. -/
def tail (p : Path) : Path := p.rtakeWhile (· ≠ '/')

/-- The last element. -/
def base (p : Path) : Path :=
  if p = [] then dot
  else if tail (p.rdropWhile (· = '/')) = [] then ['/']
  else tail (p.rdropWhile (· = '/'))

/-- The last element from its last dot on. -/
def ext (p : Path) : Path :=
  if '.' ∈ tail p then '.' :: (tail p).rtakeWhile (· ≠ '.') else []

def dropCommon : List Path → List Path → List Path × List Path
  | [], target => ([], target)
  | base, [] => (base, [])
  | b :: base, t :: target =>
    if b = t then dropCommon base target else (b :: base, t :: target)

/-- The way from one path to another; there is none out of a directory that is not named. -/
def rel (base target : Path) : Option Path :=
  if clean target = clean base then some dot
  else if isRooted (clean base) ≠ isRooted (clean target) then none
  else
    let rest := dropCommon (if clean base = dot then [] else elements (clean base))
      (elements (clean target))
    if rest.1.head? = some dotDot then none
    else some (['/'].intercalate (rest.1.map (fun _ => dotDot) ++ rest.2))

/-! ### Elements -/

theorem elements_append (a b : Path) : elements (a ++ '/' :: b) = elements a ++ elements b := by
  unfold elements
  rw [List.splitOn_append_cons_self, List.filter_append]

@[simp] theorem elements_nil : elements [] = [] := rfl

theorem elements_of_plain {e : Path} (hne : e ≠ []) (h : '/' ∉ e) : elements e = [e] := by
  unfold elements
  rw [List.splitOn_eq_singleton h]
  simp [hne]

theorem elements_intercalate {es : List Path} (h : ∀ e ∈ es, e ≠ [] ∧ '/' ∉ e) :
    elements (['/'].intercalate es) = es := by
  unfold elements
  by_cases hes : es = []
  · rw [hes]
    rfl
  · rw [List.splitOn_intercalate '/' (fun e he => (h e he).2) hes]
    apply List.filter_eq_self.mpr
    intro e he
    simpa using (h e he).1

theorem elements_render {es : List Path} (h : ∀ e ∈ es, e ≠ [] ∧ '/' ∉ e) :
    elements (render true es) = es := by
  rw [render, if_pos rfl, ← List.nil_append ('/' :: _), elements_append, elements_intercalate h]
  rfl

theorem mem_splitOn {p e : Path} (h : e ∈ p.splitOn '/') : '/' ∉ e := by
  induction p generalizing e with
  | nil =>
    rw [List.splitOn_nil, List.mem_singleton] at h
    simp [h]
  | cons c p ih =>
    rw [List.splitOn_cons_eq_if_modifyHead] at h
    split_ifs at h with hc
    · rcases List.mem_cons.mp h with rfl | h
      · exact List.not_mem_nil
      · exact ih h
    · cases hp : p.splitOn '/' with
      | nil => exact absurd hp (List.splitOn_ne_nil '/' p)
      | cons first rest =>
        rw [hp, List.modifyHead_cons] at h
        rcases List.mem_cons.mp h with rfl | h
        · have hfirst : '/' ∉ first := ih (hp ▸ List.mem_cons_self)
          have hne : '/' ≠ c := fun heq => hc (by simp [← heq])
          simp [hfirst, hne]
        · exact ih (hp ▸ List.mem_cons_of_mem first h)

theorem mem_elements {p e : Path} (h : e ∈ elements p) : e ≠ [] ∧ '/' ∉ e := by
  rw [elements, List.mem_filter, decide_eq_true_eq] at h
  exact ⟨h.2, mem_splitOn h.1⟩

/-! ### Names -/

theorem push_name {rooted : Bool} {stack : List Path} {e : Path} (h : IsName e) :
    push rooted stack e = e :: stack := by
  rw [push, if_neg h.ne_dot, if_neg h.ne_dotDot]

theorem foldl_push {rooted : Bool} {stack es : List Path} (h : ∀ e ∈ es, IsName e) :
    es.foldl (push rooted) stack = es.reverse ++ stack := by
  induction es generalizing stack with
  | nil => rfl
  | cons e es ih =>
    rw [List.foldl_cons, push_name (h e List.mem_cons_self),
      ih fun e' he' => h e' (List.mem_cons_of_mem e he')]
    simp

theorem up_names {stack : List Path} (h : ∀ e ∈ stack, IsName e) : ∀ e ∈ up true stack, IsName e := by
  cases stack with
  | nil => simp [up]
  | cons top rest =>
    rw [up, if_neg (h top List.mem_cons_self).ne_dotDot]
    exact fun e he => h e (List.mem_cons_of_mem top he)

/-- In an absolute path no element goes up any more. -/
theorem push_names {stack : List Path} {e : Path} (hstack : ∀ e ∈ stack, IsName e)
    (he : e ≠ [] ∧ '/' ∉ e) : ∀ e' ∈ push true stack e, IsName e' := by
  unfold push
  split_ifs with hdot hup
  · exact hstack
  · exact up_names hstack
  · intro e' he'
    rcases List.mem_cons.mp he' with rfl | he'
    · exact ⟨he.1, he.2, hdot, hup⟩
    · exact hstack e' he'

theorem foldl_push_names {stack es : List Path} (hstack : ∀ e ∈ stack, IsName e)
    (hes : ∀ e ∈ es, e ≠ [] ∧ '/' ∉ e) : ∀ e ∈ es.foldl (push true) stack, IsName e := by
  induction es generalizing stack with
  | nil => exact hstack
  | cons e es ih =>
    apply ih (push_names hstack (hes e List.mem_cons_self))
    exact fun e' he' => hes e' (List.mem_cons_of_mem e he')

/-! ### Locations -/

/-- A file or directory, by the names that lead to it. -/
structure Location where
  names : List Path
  valid : ∀ e ∈ names, IsName e

namespace Location

variable (L : Location)

def path : Path := render true L.names

/-- The location that an absolute path names. -/
def ofPath (p : Path) : Location where
  names := normalize true (elements p)
  valid := by
    intro e he
    exact foldl_push_names (by simp) (fun e' => mem_elements) e (List.mem_reverse.mp he)

def child (e : Path) (h : IsName e) : Location where
  names := L.names ++ [e]
  valid := by
    intro e' he'
    rcases List.mem_append.mp he' with he' | he'
    · exact L.valid e' he'
    · exact List.mem_singleton.mp he' ▸ h

def parent : Location where
  names := L.names.dropLast
  valid := fun e he => L.valid e (List.mem_of_mem_dropLast he)

@[simp] theorem isRooted_path : isRooted L.path = true := rfl

@[simp] theorem elements_path : elements L.path = L.names :=
  elements_render fun e he => ⟨(L.valid e he).nonempty, (L.valid e he).plain⟩

theorem path_injective {L L' : Location} (h : L.path = L'.path) : L.names = L'.names := by
  rw [← L.elements_path, h, L'.elements_path]

theorem normalize_names : normalize true L.names = L.names := by
  rw [normalize, foldl_push L.valid]
  simp

@[simp] theorem clean_path : clean L.path = L.path := by
  rw [clean, isRooted_path, elements_path, normalize_names]
  rfl

theorem path_ne_nil : L.path ≠ [] := by
  simp [path, render]

theorem path_ne_dot : L.path ≠ dot := by
  simp [path, render, dot]

theorem join_path (p : Path) : join L.path p =
    render true ((elements p).foldl (push true) L.names.reverse).reverse := by
  have hrooted : isRooted (L.path ++ '/' :: p) = true := rfl
  rw [join, if_pos L.path_ne_nil, clean, hrooted, elements_append, elements_path, normalize,
    List.foldl_append, foldl_push L.valid, List.append_nil]

theorem join_child {e : Path} (h : IsName e) : join L.path e = (L.child e h).path := by
  rw [join_path, elements_of_plain h.nonempty h.plain, List.foldl_cons, push_name h]
  simp [path, child]

theorem join_self {p : Path} (h : elements p = [] ∨ p = dot) : join L.path p = L.path := by
  rw [join_path]
  rcases h with h | rfl
  · rw [h]
    simp [path]
  · rw [elements_of_plain (by decide) (by decide)]
    simp [path, push]

theorem join_dotDot : join L.path dotDot = L.parent.path := by
  rw [join_path, elements_of_plain (by decide) (by decide), List.foldl_cons, List.foldl_nil, push,
    if_neg (by decide), if_pos rfl]
  cases hnames : L.names.reverse with
  | nil =>
    rw [List.reverse_eq_nil_iff] at hnames
    simp [path, parent, hnames, up]
  | cons top rest =>
    have htop : top ≠ dotDot :=
      (L.valid top (List.mem_reverse.mp (hnames ▸ List.mem_cons_self))).ne_dotDot
    have hlist : L.names = rest.reverse ++ [top] := by
      rw [← List.reverse_reverse L.names, hnames, List.reverse_cons]
    simp [path, parent, hlist, up, htop]

end Location

theorem dropCommon_append (xs ys : List Path) : dropCommon xs (xs ++ ys) = ([], ys) := by
  induction xs with
  | nil => rfl
  | cons x xs ih => simp [dropCommon, ih]

theorem dropCommon_append_left (xs ys : List Path) : dropCommon (xs ++ ys) xs = (ys, []) := by
  induction xs with
  | nil => cases ys <;> rfl
  | cons x xs ih => simp [dropCommon, ih]

namespace Location

variable (L : Location)

theorem rel_self : rel L.path L.path = some dot := by
  rw [rel, if_pos rfl]

theorem rel_child {e : Path} (h : IsName e) : rel L.path (L.child e h).path = some e := by
  have hne : (L.child e h).path ≠ L.path := by
    intro heq
    have hnames : L.names ++ [e] = L.names := path_injective heq
    simp at hnames
  rw [rel, clean_path, clean_path, if_neg hne, if_neg (by simp), if_neg L.path_ne_dot, elements_path,
    elements_path, show (L.child e h).names = L.names ++ [e] from rfl, dropCommon_append]
  simp

theorem rel_parent (h : L.names ≠ []) : rel L.path L.parent.path = some dotDot := by
  obtain ⟨rest, top, hlist⟩ : ∃ rest top, L.names = rest ++ [top] :=
    ⟨L.names.dropLast, L.names.getLast h, (List.dropLast_append_getLast h).symm⟩
  have hparent : L.parent.names = rest := by
    rw [show L.parent.names = L.names.dropLast from rfl, hlist, List.dropLast_concat]
  have hne : L.parent.path ≠ L.path := by
    intro heq
    have hnames := path_injective heq
    rw [hparent, hlist] at hnames
    simp at hnames
  have htop : top ≠ dotDot := (L.valid top (by simp [hlist])).ne_dotDot
  rw [rel, clean_path, clean_path, if_neg hne, if_neg (by simp), if_neg L.path_ne_dot, elements_path,
    elements_path, hparent, hlist, dropCommon_append_left]
  simp [htop]

end Location

/-! ### Last elements -/

theorem tail_plain (p : Path) : '/' ∉ tail p := by
  intro h
  have hne := List.mem_rtakeWhile_imp h
  simp at hne

theorem tail_of_plain {p : Path} (h : '/' ∉ p) : tail p = p := by
  apply List.rtakeWhile_eq_self_iff.mpr
  intro c hc
  have hne : c ≠ '/' := fun heq => h (heq ▸ hc)
  simp [hne]

theorem base_of_plain {p : Path} (hne : p ≠ []) (h : '/' ∉ p) : base p = p := by
  have htrim : p.rdropWhile (· = '/') = p := by
    apply List.rdropWhile_eq_self_iff.mpr
    intro hp hlast
    exact h (of_decide_eq_true hlast ▸ List.getLast_mem hp)
  rw [base, htrim, tail_of_plain h, if_neg hne, if_neg hne]

theorem mem_base {p : Path} (h : '/' ∈ base p) : base p = ['/'] := by
  unfold base at h ⊢
  split_ifs at h ⊢
  · simp [dot] at h
  · rfl
  · exact absurd h (tail_plain _)

/-- A path that is its own last element. -/
theorem base_eq_self {p : Path} (hne : p ≠ []) : base p = p ↔ p = ['/'] ∨ '/' ∉ p := by
  constructor
  · intro h
    by_cases hslash : '/' ∈ p
    · exact .inl (h ▸ mem_base (h.symm ▸ hslash))
    · exact .inr hslash
  · rintro (rfl | h)
    · rfl
    · exact base_of_plain hne h

theorem ext_plain (p : Path) : '/' ∉ ext p := by
  unfold ext
  split_ifs
  · intro h
    rcases List.mem_cons.mp h with h | h
    · cases h
    · exact tail_plain p ((List.rtakeWhile_suffix _ _).subset h)
  · exact List.not_mem_nil

/-! ### Entries -/

theorem intercalate_concat {es : List Path} (hne : es ≠ []) (e : Path) :
    ['/'].intercalate (es ++ [e]) = ['/'].intercalate es ++ '/' :: e := by
  induction es with
  | nil => exact absurd rfl hne
  | cons x xs ih =>
    cases xs with
    | nil => simp [List.intercalate]
    | cons y ys =>
      have hrest := ih (List.cons_ne_nil y ys)
      simp only [List.intercalate, List.cons_append, List.intersperse_cons_cons, List.flatten_cons,
        List.append_assoc] at hrest ⊢
      rw [hrest]

namespace Location

variable (L : Location)

theorem joinPath_path {e : Path} (h : IsName e) : joinPath L.path e = (L.child e h).path := by
  have hchild : (L.child e h).path = '/' :: ['/'].intercalate (L.names ++ [e]) := rfl
  have hpath : L.path = '/' :: ['/'].intercalate L.names := rfl
  rcases List.eq_nil_or_concat L.names with hnil | ⟨xs, x, hlist⟩
  · rw [hchild, hpath, hnil]
    simp [joinPath, List.intercalate]
  · rw [List.concat_eq_append] at hlist
    have hne : L.names ≠ [] := by simp [hlist]
    have hx : IsName x := L.valid x (by simp [hlist])
    have hlast : L.path.getLast? = x.getLast? := by
      rw [hpath, hlist]
      cases xs with
      | nil => simp [List.intercalate, List.getLast?_cons, List.getLast?_eq_some_getLast hx.nonempty]
      | cons y ys =>
        rw [intercalate_concat (List.cons_ne_nil y ys)]
        simp [List.getLast?_cons, List.getLast?_append, List.getLast?_eq_some_getLast hx.nonempty]
    have hslash : L.path.getLast? ≠ some '/' := by
      rw [hlast]
      intro heq
      exact hx.plain (List.mem_of_getLast? heq)
    rw [joinPath, if_neg hslash, hchild, intercalate_concat hne, hpath]
    rfl

theorem base_child {e : Path} (h : IsName e) : base (L.child e h).path = e := by
  rw [← L.joinPath_path h]
  have hsplit : ∃ dir, joinPath L.path e = dir ++ '/' :: e := by
    unfold joinPath
    split_ifs with hlast
    · obtain ⟨dir, hdir⟩ : ∃ dir, L.path = dir ++ ['/'] :=
        ⟨L.path.dropLast, (List.dropLast_append_getLast? '/' hlast).symm⟩
      exact ⟨dir, by rw [hdir, List.append_assoc]; rfl⟩
    · exact ⟨L.path, rfl⟩
  obtain ⟨dir, hdir⟩ := hsplit
  have htrim : (dir ++ '/' :: e).rdropWhile (· = '/') = dir ++ '/' :: e := by
    apply List.rdropWhile_eq_self_iff.mpr
    intro hne hlast
    have hmem : (dir ++ '/' :: e).getLast hne ∈ e := by
      rw [List.getLast_append_of_ne_nil _ (by simp), List.getLast_cons h.nonempty]
      exact List.getLast_mem _
    rw [of_decide_eq_true hlast] at hmem
    exact h.plain hmem
  have htail : tail (dir ++ '/' :: e) = e := by
    have hstop : e.reverse.takeWhile (· ≠ '/') = e.reverse := by
      apply List.takeWhile_eq_self_iff.mpr
      intro c hc
      have hne : c ≠ '/' := fun heq => h.plain (heq ▸ List.mem_reverse.mp hc)
      simp [hne]
    rw [tail, List.rtakeWhile, List.reverse_append, List.reverse_cons, List.append_assoc,
      List.takeWhile_append, hstop, if_pos rfl]
    simp
  rw [base, hdir, htrim, htail, if_neg (by simp), if_neg h.nonempty]

end Location

end Paths
