/-
  Pageflow.Proofs.Targets — where requests go.

  A server is checked as an address, but the path of an operation is put behind its text.  What is
  read of both together is what is read of the server, and then the path; so the path comes behind
  the query or the fragment of the server if there is one, and else lands where it belongs:

      https://api.example.com/v2  /users   →  https, api.example.com, /v2/users
      https://api.example.com?v=2 /users   →  https, api.example.com, /, v=2/users

  Main definitions: `Joined` and `marks`.
  Main statements: `significant_joinPath`, `parse_joinPath` and
  `operation_paths_stay_with_the_server`; `path_lands_in_the_query` on what is left out.
-/
import Mathlib.Data.List.TakeWhile
import Pageflow.Proofs.Authorities
import Pageflow.Proofs.Headers
import Pageflow.Proofs.Locations

namespace Pageflow

namespace Url

/-! ## §1. Cuts of a text with another behind it. -/

section Cuts

variable {p : Char → Bool} {front : List Char} {c : Char}

theorem dropWhile_append_of_mem (hc : c ∈ front) (keep : p c = false) (more : List Char) :
    (front ++ more).dropWhile p = front.dropWhile p ++ more := by
  have left : (front.dropWhile p).isEmpty = false := by
    rw [List.isEmpty_eq_false_iff, ne_eq, List.dropWhile_eq_nil_iff]
    intro all
    rw [all c hc] at keep
    contradiction
  rw [List.dropWhile_append, left, if_neg Bool.false_ne_true]

theorem dropEndWhile_append_of_mem {more : List Char} (hc : c ∈ more) (keep : p c = false)
    (front : List Char) :
    Text.dropEndWhile p (front ++ more) = front ++ Text.dropEndWhile p more := by
  rw [Text.dropEndWhile, List.reverse_append,
    dropWhile_append_of_mem (List.mem_reverse.mpr hc) keep, List.reverse_append,
    List.reverse_reverse, Text.dropEndWhile]

theorem dropEndWhile_cons (first : p c = false) (cs : List Char) :
    Text.dropEndWhile p (c :: cs) = c :: Text.dropEndWhile p cs := by
  rw [Text.dropEndWhile, Text.dropEndWhile, List.reverse_cons, List.dropWhile_append]
  split
  next none =>
    rw [List.isEmpty_iff.mp none, List.dropWhile_cons_of_neg (by simp [first])]
    rfl
  next => rw [List.reverse_append, List.reverse_singleton, List.singleton_append]

theorem mem_of_mem_dropEndWhile {cs : List Char} (h : c ∈ Text.dropEndWhile p cs) : c ∈ cs :=
  (Text.dropEndWhile_isPrefix p cs).mem h

/-- What is dropped from the end, and that it is something if the last character is. -/
theorem exists_dropEndWhile_append (p : Char → Bool) (cs : List Char) :
    ∃ ending, Text.dropEndWhile p cs ++ ending = cs ∧ (∀ c ∈ ending, p c = true)
      ∧ ∀ c, cs.getLast? = some c → p c = true → ending ≠ [] := by
  refine ⟨(cs.reverse.takeWhile p).reverse, ?_, ?_, ?_⟩
  · rw [Text.dropEndWhile, ← List.reverse_append, List.takeWhile_append_dropWhile,
      List.reverse_reverse]
  · intro c hc
    exact List.mem_takeWhile_imp (List.mem_reverse.mp hc)
  · intro c last hc
    rw [← List.head?_reverse] at last
    obtain ⟨back, chars⟩ := List.head?_eq_some_iff.mp last
    rw [chars, List.takeWhile_cons_of_pos hc]
    simp

/-- A cut before a character of the first text leaves the second one behind. -/
theorem cutBefore_append_of_mem (hc : c ∈ front) (cut : p c = true) (more : List Char) :
    cutBefore p (front ++ more) = ((cutBefore p front).1, (cutBefore p front).2 ++ more) := by
  induction front with
  | nil => contradiction
  | cons d front ih =>
    cases hd : p d with
    | true => simp [cutBefore, hd]
    | false =>
      have own : c ∈ front := by
        rcases List.mem_cons.mp hc with rfl | hc
        · rw [cut] at hd; contradiction
        · exact hc
      have inner := ih own
      rw [cutBefore, cutBefore, Prod.mk.injEq] at inner
      simp [cutBefore, hd, inner.1, inner.2]

/-- One that finds nothing in the first text goes on in the second. -/
theorem cutBefore_append_of_forall (h : ∀ c ∈ front, p c = false) (more : List Char) :
    cutBefore p (front ++ more) = (front ++ (cutBefore p more).1, (cutBefore p more).2) := by
  have all : ∀ c ∈ front, (!p c) = true := fun c hc => by rw [h c hc]; rfl
  rw [cutBefore, List.takeWhile_append_of_pos all, List.dropWhile_append_of_pos all, cutBefore]

end Cuts

/-! ## §2. What is read of a server and a path. -/

/-- What may be read behind a server, slashes, and what is read there with a path instead: blanks
that are not read of the server alone, and the path. -/
structure Joined (slashes blanks path : List Char) : Prop where
  slash : ∀ c ∈ slashes, c = '/'
  hidden : ∀ c ∈ blanks, isHidden c = true
  opened : path.head? = some '/'
  unmarked : ∀ c ∈ path, endsPath c = false

/-- Whether a character counts between others. -/
def isKept (c : Char) : Bool := c ≠ '\t' && c ≠ '\n' && c ≠ '\r'

theorem significant_eq (s : String) :
    significant s = (Text.dropEndWhile isHidden (s.toList.dropWhile isHidden)).filter isKept :=
  rfl

/-- If a text can be seen, and what is put behind it begins with a slash, both are read. -/
theorem significant_append {s path : String} {c : Char} (hc : c ∈ s.toList)
    (visible : isHidden c = false) (opened : path.toList.head? = some '/') :
    significant (s ++ path) = (s.toList.dropWhile isHidden).filter isKept
      ++ (Text.dropEndWhile isHidden path.toList).filter isKept := by
  have slash : '/' ∈ path.toList := List.mem_of_head? opened
  rw [significant_eq, String.toList_append, dropWhile_append_of_mem hc visible,
    dropEndWhile_append_of_mem slash (by decide), List.filter_append]

theorem joined_of_path {path : String} (opened : path.toList.head? = some '/')
    (unmarked : ∀ c ∈ path.toList, endsPath c = false) {slashes blanks : List Char}
    (slash : ∀ c ∈ slashes, c = '/') (hidden : ∀ c ∈ blanks, isHidden c = true) :
    Joined slashes blanks ((Text.dropEndWhile isHidden path.toList).filter isKept) where
  slash
  hidden
  opened := by
    obtain ⟨cs, chars⟩ := List.head?_eq_some_iff.mp opened
    rw [chars, dropEndWhile_cons (by decide)]
    rfl
  unmarked := fun c hc => unmarked c (mem_of_mem_dropEndWhile (List.mem_of_mem_filter hc))

/-- If the server ends in a slash, its slashes at the end give way to that of the path. -/
theorem significant_joinPath_of_closed {server path : String} {c : Char} (hc : c ∈ server.toList)
    (visible : isHidden c = false) (name : c ≠ '/') (opened : path.toList.head? = some '/')
    (closed : server.toList.getLast? = some '/') :
    ∃ front slashes, (∀ c ∈ slashes, c = '/')
      ∧ significant server = front ++ slashes
      ∧ significant (joinPath server path)
        = front ++ (Text.dropEndWhile isHidden path.toList).filter isKept := by
  obtain ⟨ending, whole, slash, nonempty⟩ :=
    exists_dropEndWhile_append (· = '/') server.toList
  have texts : server = String.ofList (Text.dropEndWhile (· = '/') server.toList)
      ++ String.ofList ending := by
    rw [← String.ofList_append, whole, String.ofList_toList]
  have hc : c ∈ (String.ofList (Text.dropEndWhile (· = '/') server.toList)).toList := by
    rw [String.toList_ofList]
    refine (List.mem_append.mp (whole.symm ▸ hc)).resolve_right ?_
    exact fun h => name (of_decide_eq_true (slash c h))
  have first : (String.ofList ending).toList.head? = some '/' := by
    obtain ⟨d, rest, rfl⟩ := List.exists_cons_of_ne_nil (nonempty _ closed (by decide))
    rw [String.toList_ofList, List.head?_cons, of_decide_eq_true (slash d List.mem_cons_self)]
  refine ⟨_, _, ?_, (congrArg significant texts).trans (significant_append hc visible first), ?_⟩
  · intro d hd
    have hd := mem_of_mem_dropEndWhile (List.mem_of_mem_filter hd)
    rw [String.toList_ofList] at hd
    exact of_decide_eq_true (slash d hd)
  · rw [joinPath, if_pos ⟨closed, opened⟩, significant_append hc visible opened]

/-- Otherwise what is blank at its end, and not read of the server alone, is read before the
path. -/
theorem significant_joinPath_of_not_closed {server path : String} {c : Char}
    (hc : c ∈ server.toList) (visible : isHidden c = false)
    (opened : path.toList.head? = some '/') (closed : server.toList.getLast? ≠ some '/') :
    ∃ blanks, (∀ c ∈ blanks, isHidden c = true)
      ∧ significant (joinPath server path) = significant server
        ++ (blanks ++ (Text.dropEndWhile isHidden path.toList).filter isKept) := by
  obtain ⟨ending, whole, hidden, _⟩ :=
    exists_dropEndWhile_append isHidden (server.toList.dropWhile isHidden)
  have read := congrArg (List.filter isKept) whole
  rw [List.filter_append] at read
  refine ⟨ending.filter isKept, fun c hc => hidden c (List.mem_of_mem_filter hc), ?_⟩
  rw [joinPath, if_neg (fun h => closed h.1), if_neg (fun h => h.2.1 opened),
    significant_append hc visible opened, significant_eq, ← List.append_assoc, read]

/-- **A server with a path is read as the server is, up to slashes and blanks at its end, and then
the path.** -/
theorem significant_joinPath {server path : String} {c : Char} (hc : c ∈ server.toList)
    (visible : isHidden c = false) (name : c ≠ '/') (opened : path.toList.head? = some '/')
    (unmarked : ∀ c ∈ path.toList, endsPath c = false) :
    ∃ front slashes blanks behind, Joined slashes blanks behind
      ∧ significant server = front ++ slashes
      ∧ significant (joinPath server path) = front ++ (blanks ++ behind) := by
  by_cases closed : server.toList.getLast? = some '/'
  · obtain ⟨front, slashes, slash, own, joined⟩ :=
      significant_joinPath_of_closed hc visible name opened closed
    exact ⟨front, slashes, [], _,
      joined_of_path opened unmarked slash (fun _ h => absurd h List.not_mem_nil), own, joined⟩
  · obtain ⟨blanks, hidden, joined⟩ :=
      significant_joinPath_of_not_closed hc visible opened closed
    exact ⟨significant server, [], blanks, _,
      joined_of_path opened unmarked (fun _ h => absurd h List.not_mem_nil) hidden,
      (List.append_nil _).symm, joined⟩

/-! ## §3. Marks. -/

/-- The characters of a text that end a path. -/
def marks (cs : List Char) : List Char := cs.filter endsPath

theorem marks_append (front more : List Char) : marks (front ++ more) = marks front ++ marks more :=
  List.filter_append ..

theorem marks_of_forall {cs : List Char} (h : ∀ c ∈ cs, endsPath c = false) : marks cs = [] :=
  List.filter_eq_nil_iff.mpr fun c hc => by rw [h c hc]; exact Bool.false_ne_true

variable {u : Url}

/-- A query and a fragment are there exactly if their marks are, that of the query first. -/
structure Marked (u : Url) (cs : List Char) : Prop where
  query : u.query.isSome = true ↔ (marks cs).head? = some '?'
  fragment : u.fragment.isSome = true ↔ '#' ∈ marks cs

theorem Marked.congr {cs cs' : List Char} (h : u.Marked cs) (same : marks cs' = marks cs) :
    u.Marked cs' :=
  ⟨by rw [same]; exact h.query, by rw [same]; exact h.fragment⟩

theorem withTail_marked (u : Url) {cs : List Char}
    (h : ∀ c, cs.head? = some c → endsPath c = true) : (u.withTail cs).Marked cs := by
  cases cs with
  | nil => exact ⟨by simp [withTail, marks], by simp [withTail, marks]⟩
  | cons c cs =>
    have mark : c = '?' ∨ c = '#' := by simpa [endsPath] using h c rfl
    rcases mark with rfl | rfl
    · -- the fragment begins where the query is cut
      have cut : (cutBefore (· = '#') cs).2 = [] ↔ '#' ∉ cs := by
        simp only [cutBefore, List.dropWhile_eq_nil_iff, Bool.not_eq_true',
          decide_eq_false_iff_not]
        exact ⟨fun h found => h _ found rfl, fun h c hc same => h (same ▸ hc)⟩
      have own : '#' ∈ marks ('?' :: cs) ↔ '#' ∈ cs := by simp [marks, endsPath]
      refine ⟨by simp [withTail, marks, endsPath], ?_⟩
      rw [own, ← not_iff_not, ← cut]
      cases rest : (cutBefore (· = '#') cs).2 <;> simp [withTail, rest]
    · exact ⟨by simp [withTail, marks, endsPath], by simp [withTail, marks, endsPath]⟩

theorem withPath_marked (u : Url) (front : List String) (cs : List Char) :
    (u.withPath front cs).Marked cs := by
  have plain : marks (cutBefore endsPath cs).1 = [] := by
    refine marks_of_forall fun c hc => ?_
    simpa using List.mem_takeWhile_imp hc
  have first : ∀ c, (cutBefore endsPath cs).2.head? = some c → endsPath c = true := by
    intro c hc
    have found := List.head?_dropWhile_not (fun c => !endsPath c) cs
    rw [show (cs.dropWhile fun c => !endsPath c).head? = some c from hc] at found
    simpa using found
  refine (withTail_marked _ first).congr ?_
  have whole : (cutBefore endsPath cs).1 ++ (cutBefore endsPath cs).2 = cs :=
    List.takeWhile_append_dropWhile
  conv_lhs => rw [← whole, marks_append, plain, List.nil_append]

theorem withRest_marked (special : isSpecial u.scheme = true) (query : u.query = none)
    (fragment : u.fragment = none) (cs : List Char) : (u.withRest cs).Marked cs := by
  unfold withRest
  rw [special]
  cases cs with
  | nil => exact ⟨by simp [query, marks], by simp [fragment, marks]⟩
  | cons c rest =>
    dsimp only
    split
    next slash =>
      refine (withPath_marked u [] rest).congr ?_
      have plain : ∀ d ∈ [c], endsPath d = false := by
        rintro d hd
        obtain rfl := List.mem_singleton.mp hd
        have mark : d = '/' ∨ d = '\\' := by simpa [isSlash] using slash
        rcases mark with rfl | rfl <;> decide
      rw [← List.singleton_append, marks_append, marks_of_forall plain, List.nil_append]
    next => exact withPath_marked u [] (c :: rest)

theorem withTail_parts (u : Url) (cs : List Char) :
    (u.withTail cs).scheme = u.scheme ∧ (u.withTail cs).authority = u.authority := by
  unfold withTail
  split <;> exact ⟨rfl, rfl⟩

theorem withRest_parts (u : Url) (cs : List Char) :
    (u.withRest cs).scheme = u.scheme ∧ (u.withRest cs).authority = u.authority := by
  unfold withRest
  dsimp only
  split
  · split
    · exact withTail_parts _ _
    split
    · exact withTail_parts _ _
    · exact withTail_parts _ _
  · split <;> exact ⟨rfl, rfl⟩

/-! ## §4. Servers with paths. -/

/-- Whether a character is no part of a scheme. -/
def endsScheme (c : Char) : Bool := !(c.isAlphanum || c = '+' || c = '-' || c = '.')

theorem scheme?_cons {c : Char} (alpha : c.isAlpha = true) (cs : List Char) :
    scheme? (c :: cs) = match (cutBefore endsScheme cs).2 with
      | ':' :: rest =>
        some (Text.lowerAscii (String.ofList (c :: (cutBefore endsScheme cs).1)), rest)
      | _ => none := by
  rw [scheme?, if_pos alpha]
  rfl

/-- A scheme is read before whatever is put behind. -/
theorem scheme?_append {front slashes rest : List Char} {scheme : String}
    (h : scheme? (front ++ slashes) = some (scheme, rest)) (slash : ∀ c ∈ slashes, c = '/') :
    ∃ left, rest = left ++ slashes
      ∧ ∀ more, scheme? (front ++ more) = some (scheme, left ++ more) := by
  cases front with
  | nil =>
    cases slashes with
    | nil => cases h
    | cons c slashes =>
      obtain rfl := slash c List.mem_cons_self
      rw [List.nil_append, scheme?, if_neg (by decide)] at h
      contradiction
  | cons c front =>
    by_cases alpha : c.isAlpha = true
    · rw [List.cons_append, scheme?_cons alpha] at h
      by_cases all : ∀ d ∈ front, endsScheme d = false
      · -- then the slashes would have to hold the colon
        rw [cutBefore_append_of_forall all] at h
        split at h
        next cut =>
          have colon : ':' ∈ slashes :=
            (List.dropWhile_suffix _).mem (cut ▸ List.mem_cons_self)
          exact absurd (slash ':' colon) (by decide)
        next => contradiction
      · obtain ⟨d, hd, ends⟩ : ∃ d ∈ front, endsScheme d = true := by simpa using all
        rw [cutBefore_append_of_mem hd ends] at h
        cases cut : (cutBefore endsScheme front).2 with
        | nil =>
          have := List.dropWhile_eq_nil_iff.mp cut d hd
          rw [ends] at this
          contradiction
        | cons e left =>
          rw [cut] at h
          dsimp only [List.cons_append] at h
          split at h
          next found =>
            obtain ⟨rfl, rfl⟩ := List.cons.inj found
            obtain ⟨rfl, rfl⟩ := Prod.mk.inj (Option.some.inj h)
            refine ⟨left, rfl, fun more => ?_⟩
            rw [List.cons_append, scheme?_cons alpha, cutBefore_append_of_mem hd ends, cut]
            rfl
          next => contradiction
    · rw [List.cons_append, scheme?, if_neg alpha] at h
      contradiction

theorem dropSlashes_append {front more : List Char} {c : Char} (hc : c ∈ front)
    (plain : isSlash true c = false) : dropSlashes (front ++ more) = dropSlashes front ++ more :=
  dropWhile_append_of_mem hc plain more

theorem cutBefore_of_head {p : Char → Bool} {cs : List Char}
    (h : ∀ c, cs.head? = some c → p c = true) : cutBefore p cs = ([], cs) := by
  cases cs with
  | nil => rfl
  | cons c cs =>
    have first : (!p c) = false := by rw [h c rfl]; rfl
    rw [cutBefore, List.takeWhile_cons, List.dropWhile_cons, first]
    rfl

/-- Reading behind the slashes gives the authority and what follows it. -/
theorem afterSlashes_ok {scheme : String} {cs : List Char} {u : Url}
    (h : afterSlashes scheme cs = .ok u) :
    ∃ last a, authorityOf scheme last (cutBefore (endsAuthority (isSpecial scheme)) cs).1 = .ok a
      ∧ u = ({ scheme, authority := some a : Url }.withRest
        (cutBefore (endsAuthority (isSpecial scheme)) cs).2) := by
  unfold afterSlashes at h
  dsimp only at h
  split at h
  next => contradiction
  next a ha => exact ⟨_, a, ha, (Except.ok.inj h).symm⟩

theorem scheme_fileAfterSlashes {cs : List Char} {u : Url} (h : fileAfterSlashes cs = .ok u) :
    u.scheme = "file" := by
  unfold fileAfterSlashes at h
  dsimp only at h
  split at h
  · exact Except.ok.inj h ▸ (withTail_parts _ _).1
  split at h
  · exact Except.ok.inj h ▸ (withRest_parts _ _).1
  split at h
  next => contradiction
  next => exact Except.ok.inj h ▸ (withRest_parts _ _).1
  next =>
    split at h
    · rw [← Except.ok.inj h]
      split <;> exact (withRest_parts _ _).1
    · exact Except.ok.inj h ▸ (withRest_parts _ _).1

theorem scheme_fileUrl {cs : List Char} {u : Url} (h : fileUrl cs = .ok u) : u.scheme = "file" := by
  unfold fileUrl at h
  dsimp only at h
  split at h
  · split at h
    · exact scheme_fileAfterSlashes h
    split at h
    · exact Except.ok.inj h ▸ (withTail_parts _ _).1
    · exact Except.ok.inj h ▸ (withTail_parts _ _).1
  · exact Except.ok.inj h ▸ (withTail_parts _ _).1
  · exact Except.ok.inj h ▸ (withTail_parts _ _).1

theorem scheme_plainUrl {scheme : String} {cs : List Char} {u : Url}
    (h : plainUrl scheme cs = .ok u) : u.scheme = scheme := by
  unfold plainUrl at h
  split at h
  · obtain ⟨_, a, _, rfl⟩ := afterSlashes_ok h
    exact (withRest_parts _ _).1
  · exact Except.ok.inj h ▸ (withTail_parts _ _).1
  · exact Except.ok.inj h ▸ (withTail_parts _ _).1

/-- A scheme of the web is read as such, and what follows are slashes and an authority. -/
theorem parse_web {s : String} {u : Url} (h : parse s = .ok u)
    (web : u.scheme = "http" ∨ u.scheme = "https") :
    ∃ scheme rest, scheme? (significant s) = some (scheme, rest) ∧ isSpecial scheme = true
      ∧ isFile scheme = false := by
  unfold parse parseFrom at h
  dsimp only at h
  split at h
  next scheme rest found =>
    refine ⟨scheme, rest, found, ?_⟩
    unfold afterScheme at h
    split at h
    next file =>
      rw [scheme_fileUrl h] at web
      exact absurd web (by decide)
    next file =>
      split at h
      next special => exact ⟨special, by simpa using file⟩
      next plain =>
        rw [scheme_plainUrl h] at web
        rcases web with rfl | rfl <;> exact absurd rfl plain
  next => contradiction

theorem parse_of_special {s scheme : String} {rest : List Char}
    (h : scheme? (significant s) = some (scheme, rest)) (special : isSpecial scheme = true)
    (notFile : isFile scheme = false) : parse s = afterSlashes scheme (dropSlashes rest) := by
  rw [parse, parseFrom, h]
  show afterScheme none scheme rest = _
  rw [afterScheme, notFile, special]
  rfl

theorem endsAuthority_of_isHidden {c : Char} (hidden : isHidden c = true) :
    endsAuthority true c = false := by
  by_contra ends
  rw [Bool.not_eq_false] at ends
  have mark : (c = '/' ∨ c = '\\') ∨ c = '?' ∨ c = '#' := by
    simpa [endsAuthority, isSlash, endsPath] using ends
  rcases mark with (rfl | rfl) | rfl | rfl <;> exact absurd hidden (by decide)

namespace Joined

variable {slashes blanks path : List Char}

theorem marks_slashes (joined : Joined slashes blanks path) : marks slashes = [] := by
  refine marks_of_forall fun c hc => ?_
  rw [joined.slash c hc]
  rfl

theorem marks_behind (joined : Joined slashes blanks path) : marks (blanks ++ path) = [] := by
  rw [marks_append, marks_of_forall joined.unmarked, List.append_nil]
  exact marks_of_forall fun c hc =>
    (Bool.or_eq_false_iff.mp (endsAuthority_of_isHidden (joined.hidden c hc))).2

/-- An authority ends before the slashes. -/
theorem cutBefore_slashes (joined : Joined slashes blanks path) :
    cutBefore (endsAuthority true) slashes = ([], slashes) := by
  refine cutBefore_of_head fun c hc => ?_
  rw [joined.slash c (List.mem_of_head? hc)]
  rfl

/-- It ends behind the blanks. -/
theorem cutBefore_behind (joined : Joined slashes blanks path) :
    cutBefore (endsAuthority true) (blanks ++ path) = (blanks, path) := by
  have cut : cutBefore (endsAuthority true) path = ([], path) := by
    refine cutBefore_of_head fun c hc => ?_
    rw [joined.opened] at hc
    exact Option.some.inj hc ▸ rfl
  have blank : ∀ c ∈ blanks, endsAuthority true c = false :=
    fun c hc => endsAuthority_of_isHidden (joined.hidden c hc)
  rw [cutBefore_append_of_forall blank, cut, List.append_nil]

end Joined

/-- What is put behind a server leaves its authority as it is, and adds no mark. -/
theorem afterSlashes_joined {scheme : String} {front slashes blanks behind : List Char} {u v : Url}
    (joined : Joined slashes blanks behind) (special : isSpecial scheme = true)
    (hu : afterSlashes scheme (front ++ slashes) = .ok u)
    (hv : afterSlashes scheme (front ++ (blanks ++ behind)) = .ok v) :
    ∃ a rest rest', u = ({ scheme, authority := some a : Url }.withRest rest)
      ∧ v = ({ scheme, authority := some a : Url }.withRest rest') ∧ marks rest' = marks rest := by
  obtain ⟨last, a, ha, rfl⟩ := afterSlashes_ok hu
  obtain ⟨last', a', ha', rfl⟩ := afterSlashes_ok hv
  rw [authorityOf_special special last' last] at ha'
  rw [special] at ha ha' ⊢
  by_cases all : ∀ c ∈ front, endsAuthority true c = false
  · -- the authority ends where the server does, so that there can be no blanks
    rw [cutBefore_append_of_forall all, joined.cutBefore_slashes, List.append_nil] at ha
    rw [cutBefore_append_of_forall all, joined.cutBefore_behind] at ha'
    rw [cutBefore_append_of_forall all, cutBefore_append_of_forall all, joined.cutBefore_slashes,
      joined.cutBefore_behind]
    rcases List.eq_nil_or_concat blanks with rfl | ⟨others, c, rfl⟩
    · rw [List.append_nil] at ha'
      obtain rfl := Except.ok.inj (ha.symm.trans ha')
      exact ⟨a, slashes, behind, rfl, rfl, joined.marks_behind.trans joined.marks_slashes.symm⟩
    · have hidden := joined.hidden c (by simp)
      rw [List.concat_eq_append, ← List.append_assoc] at ha'
      rw [visible_of_authorityOf special ha'] at hidden
      contradiction
  · obtain ⟨c, hc, ends⟩ : ∃ c ∈ front, endsAuthority true c = true := by simpa using all
    simp only [cutBefore_append_of_mem hc ends] at ha ha' ⊢
    obtain rfl := Except.ok.inj (ha.symm.trans ha')
    refine ⟨a, _, _, rfl, rfl, ?_⟩
    rw [marks_append _ (blanks ++ behind), joined.marks_behind, marks_append,
      joined.marks_slashes]

/-- Behind a scheme of the web there is more than slashes. -/
theorem exists_not_isSlash {scheme : String} (special : isSpecial scheme = true) {cs : List Char}
    {u : Url} (h : afterSlashes scheme (dropSlashes cs) = .ok u) :
    ∃ c ∈ cs, isSlash true c = false := by
  by_contra none
  have all : ∀ c ∈ cs, isSlash true c = true := by
    intro c hc
    by_contra plain
    exact none ⟨c, hc, by simpa using plain⟩
  rw [dropSlashes, List.dropWhile_eq_nil_iff.mpr all] at h
  obtain ⟨_, a, ha, _⟩ := afterSlashes_ok h
  obtain ⟨host, _, parsed, _⟩ := exists_parts_of_authorityOf special ha
  have nameless : (Host.parse []).toOption = .none := by decide +kernel
  rw [show Host.parse [] = .ok host from parsed] at nameless
  contradiction

/-- **A path behind a server changes neither the scheme nor who serves it**, and there is a query
or a fragment exactly if the server has one. -/
theorem parse_joinPath {server path : String} {u v : Url} (hu : parse server = .ok u)
    (web : u.scheme = "http" ∨ u.scheme = "https") (opened : path.toList.head? = some '/')
    (unmarked : ∀ c ∈ path.toList, endsPath c = false)
    (hv : parse (joinPath server path) = .ok v) :
    v.scheme = u.scheme ∧ v.authority = u.authority ∧ v.query.isSome = u.query.isSome
      ∧ v.fragment.isSome = u.fragment.isSome := by
  obtain ⟨scheme, rest, found, special, notFile⟩ := parse_web hu web
  have colon : ':' ∈ server.toList := Load.Location.mem_of_mem_significant
    (Load.Location.colon_mem_of_scheme? found)
  obtain ⟨front, slashes, blanks, behind, joined, hs, hj⟩ :=
    significant_joinPath colon (by decide) (by decide) opened unmarked
  rw [hs] at found
  obtain ⟨left, rfl, same⟩ := scheme?_append found joined.slash
  have found' := same (blanks ++ behind)
  rw [← hs] at found
  rw [← hj] at found'
  rw [parse_of_special found special notFile] at hu
  rw [parse_of_special found' special notFile] at hv
  obtain ⟨c, hc, plain⟩ : ∃ c ∈ left, isSlash true c = false := by
    obtain ⟨c, hc, plain⟩ := exists_not_isSlash special hu
    refine ⟨c, (List.mem_append.mp hc).resolve_right fun hs => ?_, plain⟩
    rw [joined.slash c hs] at plain
    contradiction
  rw [dropSlashes_append hc plain] at hu hv
  obtain ⟨a, rest, rest', rfl, rfl, marked⟩ := afterSlashes_joined joined special hu hv
  have query (cs : List Char) :=
    withRest_marked (u := { scheme, authority := some a }) special rfl rfl cs
  refine ⟨?_, ?_, ?_, ?_⟩
  · rw [(withRest_parts _ _).1, (withRest_parts _ _).1]
  · rw [(withRest_parts _ _).2, (withRest_parts _ _).2]
  · rw [Bool.eq_iff_iff, (query _).query, (query _).query, marked]
  · rw [Bool.eq_iff_iff, (query _).fragment, (query _).fragment, marked]

/-! ## §5. Paths with parameters. -/

theorem head?_replace_placeholder (name : String) (value : List Char) {path : List Char}
    (opened : path.head? = some '/') :
    (Text.replace (placeholder name) value path).head? = some '/' := by
  obtain ⟨cs, rfl⟩ := List.head?_eq_some_iff.mp opened
  have apart : ¬placeholder name <+: '/' :: cs := fun h =>
    absurd (List.cons_prefix_cons.mp h).1 (by decide)
  rw [replace_cons apart]
  rfl

/-- Parameters leave the slash at the front. -/
theorem head?_expand {template : String} (opened : template.toList.head? = some '/')
    (fields : Dict Json) : (expand template fields).toList.head? = some '/' := by
  rw [expand, String.toList_ofList]
  generalize template.toList = path at opened
  induction fields generalizing path with
  | nil => exact opened
  | cons e fields ih => exact ih (fill path e.1 e.2) (head?_replace_placeholder _ _ opened)

/-- Nor do they add a mark. -/
theorem unmarked_expand {template : String} (unmarked : ∀ c ∈ template.toList, endsPath c = false)
    (fields : Dict Json) : ∀ c ∈ (expand template fields).toList, endsPath c = false := by
  intro c hc
  by_contra mark
  rw [Bool.not_eq_false] at mark
  have fresh : ¬Percent.IsWritten c := by
    have either : c = '?' ∨ c = '#' := by simpa [endsPath] using mark
    rcases either with rfl | rfl <;> rintro (h | h) <;> exact absurd h (by decide)
  have absent : c ∉ template.toList := by
    intro h
    rw [unmarked c h] at mark
    contradiction
  have count := count_expand_le fresh template fields
  rw [List.count_eq_zero.mpr absent, Nat.le_zero, List.count_eq_zero] at count
  exact count hc

end Url

/-! ## §6. Requests. -/

namespace Remote

variable {σ : Type} [Journal σ] {o : Operation} {e : Endpoint} {parameters : Dict Json}
  {value : Option Json} {s t : σ} {r : Http.Request}

/-- The server of a request was accepted, and the path is put behind its text. -/
theorem served_of_request (h : (o.request e parameters value s).Ends (.ok r) t) :
    ∃ server u, o.server e = .ok server ∧ Http.server server = .ok u
      ∧ r.url = Url.joinPath server (o.path parameters) := by
  unfold Operation.request at h
  obtain ⟨server, _, hserver, h⟩ := Run.ends_bind_ok.mp h
  obtain ⟨u, _, accepted, h⟩ := Run.ends_bind_ok.mp h
  obtain ⟨_, _, _, h⟩ := Run.ends_bind_ok.mp h
  obtain ⟨method, _, _, h⟩ := Run.ends_bind_ok.mp h
  obtain ⟨body, _, _, h⟩ := Run.ends_bind_ok.mp h
  obtain ⟨hr, _⟩ := Run.ends_pure _ _ |>.mp h
  obtain ⟨hserver, _⟩ := Run.ends_ofExcept _ _ |>.mp hserver
  obtain ⟨accepted, _⟩ := Run.ends_ofExcept _ _ |>.mp accepted
  obtain ⟨headers, outlined⟩ := outline_eq o method server e.credentials parameters
  refine ⟨server, u, hserver, ?_, ?_⟩
  · cases checked : Http.server server with
    | ok v =>
      rw [checked] at accepted
      exact congrArg _ (Except.ok.inj accepted)
    | error cause =>
      rw [checked] at accepted
      contradiction
  · rw [← Except.ok.inj hr, outlined]

/-- A server that is accepted is an address of the web. -/
theorem parse_of_server {text : String} {u : Url} (h : Http.server text = .ok u) :
    Url.parse text = .ok u ∧ (u.scheme = "http" ∨ u.scheme = "https") := by
  unfold Http.server at h
  split at h
  next => contradiction
  next parsed =>
    split at h
    next => contradiction
    next =>
      split at h
      next web =>
        obtain rfl := Except.ok.inj h
        exact ⟨parsed, by simpa [or_comm] using web⟩
      next => contradiction

/-- **The path of an operation goes to the server**, to its scheme, its host and its port, whatever
the parameters are; and it lands in no query and no fragment unless the server has one. -/
theorem operation_paths_stay_with_the_server
    (h : (o.request e parameters value s).Ends (.ok r) t)
    (opened : o.operation.path.toList.head? = some '/')
    (unmarked : ∀ c ∈ o.operation.path.toList, c ≠ '?' ∧ c ≠ '#') {v : Url}
    (parsed : Url.parse r.url = .ok v) :
    ∃ server u, o.server e = .ok server ∧ Http.server server = .ok u
      ∧ v.scheme = u.scheme ∧ v.authority = u.authority
      ∧ (v.query = none ↔ u.query = none) ∧ (v.fragment = none ↔ u.fragment = none) := by
  obtain ⟨server, u, own, accepted, url⟩ := served_of_request h
  obtain ⟨hu, web⟩ := parse_of_server accepted
  have unmarked : ∀ c ∈ o.operation.path.toList, Url.endsPath c = false := by
    intro c hc
    simpa [Url.endsPath] using unmarked c hc
  rw [url] at parsed
  obtain ⟨scheme, authority, query, fragment⟩ := Url.parse_joinPath hu web
    (Url.head?_expand opened _) (Url.unmarked_expand unmarked _) parsed
  refine ⟨server, u, own, accepted, scheme, authority, ?_, ?_⟩
  · rw [← Option.isNone_iff_eq_none, ← Option.isNone_iff_eq_none, ← Option.not_isSome,
      ← Option.not_isSome, query]
  · rw [← Option.isNone_iff_eq_none, ← Option.isNone_iff_eq_none, ← Option.not_isSome,
      ← Option.not_isSome, fragment]

/-- Shows a user. -/
def showUser : Operation where
  capability := "user"
  operation :=
    { path := "/users/\x7bid\x7d", method := "get", operationId := some "user"
      parameters := [⟨"id", .path, true⟩], headers := [], content := none }
  backend := { service := "users" }

/-- The request for the user of an identifier, at a server. -/
def shownUser (server id : String) : Task Run.State (Except Run.ExecutionError Http.Request) :=
  showUser.request { server := some server } [("id", .string id)] none {}

theorem exists_ends_of_shownUser {server id url : String}
    (h : (shownUser server id).value?.map Http.Request.url = some url) :
    ∃ r t, (shownUser server id).Ends (.ok r) t ∧ r.url = url := by
  obtain ⟨r, value, rfl⟩ := Option.map_eq_some_iff.mp h
  obtain ⟨t, ends⟩ := Task.exists_ends_of_value? value
  exact ⟨r, t, ends, rfl⟩

/-- The marks of an identifier are written as escapes, so that there is neither a query nor a
fragment; and the host and the port are those of the server. -/
theorem operation_paths_stay_with_the_server_user : ∃ r t v,
    (shownUser "https://api.example.com:8443/v2/" "a?b#c").Ends (.ok r) t
    ∧ r.url = "https://api.example.com:8443/v2/users/a%3Fb%23c"
    ∧ Url.parse r.url = .ok v ∧ v.scheme = "https"
    ∧ v.authority = some { host := some (.domain "api.example.com"), port := some 8443 }
    ∧ v.query = none ∧ v.fragment = none := by
  obtain ⟨r, t, ends, url⟩ : ∃ r t,
      (shownUser "https://api.example.com:8443/v2/" "a?b#c").Ends (.ok r) t
        ∧ r.url = "https://api.example.com:8443/v2/users/a%3Fb%23c" :=
    exists_ends_of_shownUser (by decide +kernel)
  obtain ⟨v, parsed⟩ : ∃ v, Url.parse r.url = .ok v := by
    rw [url]
    exact ⟨{ scheme := "https"
             authority := some { host := some (.domain "api.example.com"), port := some 8443 }
             path := .segments ["v2", "users", "a%3Fb%23c"] }, by decide +kernel⟩
  obtain ⟨server, u, own, accepted, scheme, authority, query, fragment⟩ :=
    operation_paths_stay_with_the_server ends rfl (by simp [showUser]) parsed
  obtain rfl : "https://api.example.com:8443/v2/" = server := Except.ok.inj own
  have known : Http.server "https://api.example.com:8443/v2/" = .ok
      { scheme := "https"
        authority := some { host := some (.domain "api.example.com"), port := some 8443 }
        path := .segments ["v2", ""] } := by decide +kernel
  obtain rfl := Except.ok.inj (known.symm.trans accepted)
  exact ⟨r, t, v, ends, url, parsed, scheme, authority, query.mpr rfl, fragment.mpr rfl⟩

/-- The query of a server takes the path in. -/
theorem path_lands_in_the_query : ∃ r t v,
    (shownUser "https://api.example.com?region=eu" "ann").Ends (.ok r) t
    ∧ Url.parse r.url = .ok v ∧ v.path = .segments [""]
    ∧ v.query = some "region=eu/users/ann" := by
  obtain ⟨r, t, ends, url⟩ : ∃ r t,
      (shownUser "https://api.example.com?region=eu" "ann").Ends (.ok r) t
        ∧ r.url = "https://api.example.com?region=eu/users/ann" :=
    exists_ends_of_shownUser (by decide +kernel)
  refine ⟨r, t,
    { scheme := "https"
      authority := some { host := some (.domain "api.example.com") }
      path := .segments [""]
      query := some "region=eu/users/ann" }, ends, ?_, rfl, rfl⟩
  rw [url]
  decide +kernel

end Remote

end Pageflow
