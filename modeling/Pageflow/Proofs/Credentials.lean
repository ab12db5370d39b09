/-
  Pageflow.Proofs.Credentials — credentials in what is noted of a request.

  Two endpoints with the same server give requests that differ in what carries their credentials:
  query values behind those of the parameters, headers, and cookies.  The line of a request shows
  its query and its authorization header.  So if a redaction knows the query values by their names
  and hides what the headers differ in, nothing that is noted tells the credentials apart.

  Redaction knows a fixed list of names and one class of characters.  An API key of another name,
  or a token with another character, is noted as it is.

  Main definitions: `queryText`, `Carrier.Concealed` and `Operation.openLine`.
  Main statements: `toList_requestLine`, `redact_outline`, `credentials_are_hidden` and
  `credentials_are_noted`.
-/
import Mathlib.Data.List.Forall2
import Pageflow.Proofs.Concealment
import Pageflow.Proofs.Task
import Pageflow.Remote.Call
import Pageflow.Run.State

namespace Pageflow.Remote

open Text (Covered IsScheme IsSecret IsSecretMark IsToken Slots Tails authorizationMarks endsIn
  endsInMark headerName hideAll isHeaderChar secretMarks)

/-! ## §1. The line of a request. -/

/-- The pairs of a query, the first one set off by `sep` and the others by ampersands. -/
def queryText : Char → List (String × String) → List Char
  | _, [] => []
  | sep, (name, value) :: rest =>
    sep :: (name.toList ++ '=' :: (value.toList ++ queryText '&' rest))

/-- The header at the end of a line, if there is one. -/
def headerText : Option String → List Char
  | none => []
  | some value => ' ' :: (headerName ++ value.toList)

theorem queryText_append (xs ys : List (String × String)) : ∀ sep : Char,
    queryText sep (xs ++ ys) = queryText sep xs ++ queryText (if xs = [] then sep else '&') ys := by
  induction xs with
  | nil => exact fun _ => rfl
  | cons x xs ih =>
    intro sep
    have next : ∀ sep : Char, (if x :: xs = [] then sep else '&') = '&' := fun _ => rfl
    have same : (if xs = [] then '&' else '&') = '&' := ite_self _
    rw [List.cons_append, queryText, queryText, ih, next, same]
    simp

theorem cons_intercalate_eq_queryText : ∀ (sep : Char) (pair : String × String)
    (rest : List (String × String)), sep :: ("&".intercalate
      ((pair :: rest).map fun x => x.1 ++ "=" ++ x.2)).toList
    = queryText sep (pair :: rest)
  | sep, pair, [] => by simp [queryText]
  | sep, pair, next :: rest => by
      have others := cons_intercalate_eq_queryText '&' next rest
      rw [String.toList_intercalate] at others ⊢
      rw [queryText, ← others]
      simp [List.intercalate_cons_cons]

/-- **A line is the method, the address, the query and the authorization.** -/
theorem toList_requestLine (r : Http.Request) : (requestLine r).toList
    = r.method.toList ++ ' ' :: (r.url.toList ++ queryText '?' r.query)
      ++ headerText (r.header? "Authorization") := by
  have query : (if r.query.isEmpty then ""
      else "?" ++ "&".intercalate (r.query.map fun x => x.1 ++ "=" ++ x.2)).toList
        = queryText '?' r.query := by
    cases r.query with
    | nil => rfl
    | cons pair rest =>
      rw [← cons_intercalate_eq_queryText, List.isEmpty_cons, if_neg Bool.false_ne_true,
        String.toList_append]
      rfl
  have header : ((r.header? "Authorization").elim "" (" authorization: " ++ ·)).toList
      = headerText (r.header? "Authorization") := by
    cases r.header? "Authorization" with
    | none => rfl
    | some value => exact String.toList_append
  have line : requestLine r = r.method ++ " " ++ r.url
      ++ (if r.query.isEmpty then ""
        else "?" ++ "&".intercalate (r.query.map fun x => x.1 ++ "=" ++ x.2))
      ++ (r.header? "Authorization").elim "" (" authorization: " ++ ·) := by
    unfold requestLine
    cases r.header? "Authorization" <;> rfl
  rw [line, String.toList_append, header, String.toList_append, query]
  simp

theorem redact_eq (line : String) : Text.redact line = String.ofList (hideAll line.toList) := rfl

/-! ## §2. What redaction hides. -/

/-- Query values of this name are hidden. -/
def IsSecretName (name : String) : Prop :=
  ' ' ∉ name.toList ∧ ∃ word ∈ secretMarks, endsIn word.toList (name.toList ++ ['=']) = true

/-- Redaction hides what the two differ in. -/
inductive Carrier.Concealed : Carrier → Carrier → Prop
  | header {name v w : String} (h : Text.sameAscii name "Authorization" = true →
      Covered v.toList w.toList) : Concealed (.header name v) (.header name w)
  | query {name c d : String} (hn : IsSecretName name) (hc : IsSecret c.toList)
      (hd : IsSecret d.toList) : Concealed (.query name c) (.query name d)
  | cookie {name c d : String} : Concealed (.cookie name c) (.cookie name d)

/-- Redaction hides what the two credentials differ in, as they are carried. -/
def Concealed (schemes : Dict OpenApi.Scheme) (x y : String × String) : Prop :=
  x.1 = y.1 ∧ (carrier schemes x.1 x.2).Concealed (carrier schemes y.1 y.2)

theorem IsSecretName.split {name : String} (h : IsSecretName name) : ∃ lead mark : List Char,
    name.toList ++ ['='] = lead ++ mark ∧ ' ' ∉ lead ∧ IsSecretMark mark := by
  obtain ⟨blankless, word, hw, ends⟩ := h
  obtain ⟨mark, ⟨lead, hsplit⟩, found⟩ := Text.endsIn_iff.mp ends
  refine ⟨lead, mark, hsplit.symm, fun hb => ?_, word, hw, found⟩
  have within : ' ' ∈ name.toList ++ ['='] := hsplit ▸ List.mem_append_left mark hb
  rcases List.mem_append.mp within with hb | hb
  · exact blankless hb
  · exact absurd (List.mem_singleton.mp hb) (by decide)

/-- The query values that carry credentials. -/
theorem slots_of_carriers {cs ds : List Carrier} (h : List.Forall₂ Carrier.Concealed cs ds) :
    ∀ sep : Char, Slots sep (queryText sep (cs.filterMap Carrier.query?))
      (queryText sep (ds.filterMap Carrier.query?)) := by
  induction h with
  | nil => exact fun sep => .nil sep
  | cons concealed _ ih =>
    intro sep
    cases concealed with
    | header => exact ih sep
    | cookie => exact ih sep
    | @query name c d hn hc hd =>
      obtain ⟨lead, mark, hsplit, blankless, hm⟩ := hn.split
      have shape : ∀ value rest : List Char, sep :: (name.toList ++ '=' :: (value ++ rest))
          = sep :: (lead ++ mark ++ (value ++ rest)) := by
        intro value rest
        rw [← hsplit]
        simp
      have slots : Slots sep _ _ := .cons blankless hm hc hd (ih '&')
      rwa [← shape, ← shape] at slots

/-! ## §3. Headers. -/

/-- Two headers of one name whose values redaction cannot tell apart, if they are noted. -/
def Written (x y : String × String) : Prop :=
  x.1 = y.1 ∧ (Text.sameAscii x.1 "Authorization" = true → Covered x.2.toList y.2.toList)

theorem written_refl (x : String × String) : Written x x := ⟨rfl, fun _ => .inl rfl⟩

theorem forall₂_written_refl : ∀ xs : List (String × String), List.Forall₂ Written xs xs
  | [] => .nil
  | x :: xs => .cons (written_refl x) (forall₂_written_refl xs)

theorem header?_congr (r : Http.Request) {name other : String}
    (h : Text.sameAscii name other = true) : r.header? name = r.header? other := by
  have lower : Text.lowerAscii name = Text.lowerAscii other := of_decide_eq_true h
  unfold Http.Request.header?
  simp only [Text.sameAscii, lower]

/-- Both have a header, with values that redaction cannot tell apart, or neither has. -/
abbrev SameHeader : Option String → Option String → Prop :=
  Option.Rel fun v w => Covered v.toList w.toList

theorem header?_writes {xs ys : List (String × String)} (h : List.Forall₂ Written xs ys) :
    ∀ {r u : Http.Request}, SameHeader (r.header? "Authorization") (u.header? "Authorization") →
      SameHeader ((xs.foldl (fun r (name, value) => r.setHeader name value) r).header?
        "Authorization") ((ys.foldl (fun r (name, value) => r.setHeader name value) u).header?
        "Authorization") := by
  induction h with
  | nil => exact fun h => h
  | @cons x y xs ys written _ ih =>
    intro r u same
    obtain ⟨name, v⟩ := x
    obtain ⟨_, w⟩ := y
    obtain ⟨rfl, covered⟩ := written
    refine ih ?_
    cases hname : Text.sameAscii name "Authorization" with
    | true =>
      rw [← header?_congr _ hname, ← header?_congr _ hname, Http.Request.header?_setHeader_self,
        Http.Request.header?_setHeader_self]
      exact .some (covered hname)
    | false =>
      rwa [Http.Request.header?_setHeader_of_ne r v hname,
        Http.Request.header?_setHeader_of_ne u w hname]

variable {o : Operation} {given other : Dict String} {parameters : Dict Json}

/-- The carriers of credentials that redaction hides. -/
theorem carriers_concealed
    (h : List.Forall₂ (Concealed o.backend.schemes) given other) :
    List.Forall₂ Carrier.Concealed (o.carriers given) (o.carriers other) := by
  induction h with
  | nil => exact .nil
  | cons concealed _ ih => exact .cons concealed.2 ih

theorem headers_of_carriers {cs ds : List Carrier} (h : List.Forall₂ Carrier.Concealed cs ds) :
    List.Forall₂ Written (cs.filterMap Carrier.header?) (ds.filterMap Carrier.header?) := by
  induction h with
  | nil => exact .nil
  | cons concealed _ ih =>
    cases concealed with
    | header covered => exact .cons ⟨rfl, covered⟩ ih
    | query => exact ih
    | cookie => exact ih

theorem cookies_of_carriers {cs ds : List Carrier} (h : List.Forall₂ Carrier.Concealed cs ds) :
    (cs.filterMap Carrier.cookie?).length = (ds.filterMap Carrier.cookie?).length := by
  induction h with
  | nil => rfl
  | cons concealed _ ih =>
    cases concealed with
    | header => exact ih
    | query => exact ih
    | cookie => exact congrArg Nat.succ ih

theorem headerWrites_written (h : List.Forall₂ (Concealed o.backend.schemes) given other) :
    List.Forall₂ Written (o.headerWrites given parameters) (o.headerWrites other parameters) := by
  have carriers := carriers_concealed h
  have empty : (o.cookies given parameters).isEmpty = (o.cookies other parameters).isEmpty := by
    have length : (o.cookies given parameters).length = (o.cookies other parameters).length := by
      unfold Operation.cookies
      rw [List.length_append, List.length_append, cookies_of_carriers carriers]
    rw [Bool.eq_iff_iff, List.isEmpty_iff_length_eq_zero, List.isEmpty_iff_length_eq_zero, length]
  have cookies : List.Forall₂ Written
      (if (o.cookies given parameters).isEmpty then []
        else [("Cookie", Operation.cookieText (o.cookies given parameters))])
      (if (o.cookies other parameters).isEmpty then []
        else [("Cookie", Operation.cookieText (o.cookies other parameters))]) := by
    rw [empty]
    split
    · exact .nil
    · -- cookies are not noted
      have other : Text.sameAscii "Cookie" "Authorization" = false := by decide +kernel
      exact .cons ⟨rfl, fun same => absurd (other.symm.trans same) Bool.false_ne_true⟩ .nil
  refine List.rel_append (List.rel_append (List.rel_append ?_ (headers_of_carriers carriers))
    cookies) (forall₂_written_refl _)
  exact forall₂_written_refl _

/-! ## §4. Methods. -/

theorem isUpper_toUpper {c : Char} (h : c.isLower = true) : c.toUpper.isUpper = true := by
  have lower : c.val ≥ 'a'.val ∧ c.val ≤ 'z'.val := by
    unfold Char.isLower at h
    simpa only [Bool.and_eq_true, decide_eq_true_eq] using h
  unfold Char.toUpper
  rw [dif_pos lower]
  have low : 97 ≤ c.val.toNat := lower.1
  have high : c.val.toNat ≤ 122 := lower.2
  have shifted : (c.val + ('A'.val - 'a'.val)).toNat = c.val.toNat - 32 := by
    rw [UInt32.toNat_add]
    show (c.val.toNat + 4294967264) % 2 ^ 32 = _
    omega
  unfold Char.isUpper
  simp only [ge_iff_le, decide_eq_true_eq, UInt32.le_iff_toNat_le, shifted]
  show 65 ≤ c.val.toNat - 32 ∧ c.val.toNat - 32 ≤ 90
  omega

theorem toUpper_eq_colon {c : Char} (h : c.toUpper = ':') : c = ':' := by
  cases hc : c.isLower with
  | true =>
    have upper := isUpper_toUpper hc
    rw [h] at upper
    contradiction
  | false =>
    have same : c.toUpper = c := by
      unfold Char.toUpper
      split
      next lower =>
        have low : c.isLower = true :=
          Bool.and_eq_true_iff.mpr ⟨decide_eq_true lower.1, decide_eq_true lower.2⟩
        exact absurd low (Bool.eq_false_iff.mp hc)
      next => rfl
    exact same.symm.trans h

/-- A method has characters, and no colon among them. -/
theorem method_chars {method : String} (h : o.method = .ok method) :
    method.toList ≠ [] ∧ ':' ∉ method.toList := by
  unfold Operation.method at h
  simp only at h
  split at h
  · contradiction
  next valid =>
    obtain rfl := Except.ok.inj h
    simp only [Bool.or_eq_true, not_or, Bool.not_eq_true, Bool.not_eq_false'] at valid
    obtain ⟨ne, chars⟩ := valid
    rw [Text.upperAscii, String.toList_ofList]
    constructor
    · intro empty
      have none := String.toList_eq_nil_iff.mp (List.map_eq_nil_iff.mp empty)
      rw [none] at ne
      contradiction
    · intro colon
      obtain ⟨c, hc, upper⟩ := List.mem_map.mp colon
      rw [toUpper_eq_colon upper] at hc
      exact absurd (List.all_eq_true.mp chars _ hc) (by decide +kernel)

/-- Before the space of a mark there is a colon, so none goes from behind a method across it. -/
theorem endsInMark_before {method rest : List Char} (ne : method ≠ []) (colon : ':' ∉ method)
    (h : endsInMark authorizationMarks (method ++ ' ' :: rest) = false) (before : List Char) :
    endsInMark authorizationMarks (before ++ (method ++ ' ' :: rest)) = false := by
  refine Text.endsInMark_eq_false.mpr fun word hw last hlast found => ?_
  rcases Nat.le_total last.length (method ++ ' ' :: rest).length with short | long
  · have within := List.suffix_of_suffix_length_le hlast (List.suffix_append before _) short
    exact Text.endsInMark_eq_false.mp h word hw last within found
  · obtain ⟨first, rfl⟩ := List.suffix_of_suffix_length_le (List.suffix_append before _) hlast long
    obtain ⟨front, c, rfl⟩ := (List.eq_nil_or_concat' method).resolve_left ne
    have shape : first ++ (front ++ [c] ++ ' ' :: rest) = (first ++ front) ++ c :: ' ' :: rest := by
      simp
    rw [shape] at found
    have length := Text.length_eq_of_dropWord? found
    rw [List.length_append, List.length_cons, List.length_cons] at length
    -- the letters of the mark that stand for the end of the method and for the space behind it
    have atEnd : (first ++ front).length < word.toList.dropLast.length := by omega
    have atSpace : (first ++ front).length + 1 < word.toList.dropLast.length := by omega
    obtain ⟨_, hd, folds⟩ := (Text.dropWord?_eq_some.mp found).1 _ _
      (List.getElem?_eq_getElem atEnd)
    obtain ⟨_, he, folds'⟩ := (Text.dropWord?_eq_some.mp found).1 _ _
      (List.getElem?_eq_getElem atSpace)
    rw [List.getElem?_append_right (Nat.le_refl _), Nat.sub_self] at hd
    rw [List.getElem?_append_right (Nat.le_add_right _ 1), Nat.add_sub_cancel_left] at he
    obtain rfl := Option.some.inj hd
    obtain rfl := Option.some.inj he
    have marks : ∀ word ∈ authorizationMarks, ∀ n ∈ List.range word.toList.dropLast.length,
        word.toList.dropLast[n + 1]? = some ' ' → word.toList.dropLast[n]? = some ':' := by
      decide +kernel
    have isColon := marks word hw _ (List.mem_range.mpr atEnd)
      (by rw [List.getElem?_eq_getElem atSpace, Text.eq_of_foldsTo_caseless (by decide) folds'])
    rw [List.getElem?_eq_getElem atEnd] at isColon
    rw [Option.some.inj isColon] at folds
    rw [Text.eq_of_foldsTo (by decide) folds] at colon
    exact colon (by simp)

/-! ## §5. Requests. -/

/-- The line of a request without what credentials add to it. -/
def Operation.openLine (o : Operation) (parameters : Dict Json) (r : Http.Request) : String :=
  requestLine { method := r.method, url := r.url, query := o.placedTexts .query parameters }

theorem foldl_setHeader (xs : List (String × String)) : ∀ r : Http.Request, ∃ headers,
    xs.foldl (fun r (name, value) => r.setHeader name value) r = { r with headers } := by
  induction xs with
  | nil => exact fun r => ⟨r.headers, rfl⟩
  | cons x xs ih =>
    intro r
    obtain ⟨headers, h⟩ := ih (r.setHeader x.1 x.2)
    exact ⟨headers, h⟩

/-- Headers leave what else a request has as it is. -/
theorem outline_eq (o : Operation) (method server : String) (credentials : Dict String)
    (parameters : Dict Json) : ∃ headers : List (String × String),
    o.outline method server credentials parameters = ⟨method,
      Url.joinPath server (o.path parameters), headers, o.placedTexts .query parameters
        ++ (o.carriers credentials).filterMap Carrier.query?, .empty⟩ :=
  foldl_setHeader _ _

/-- What a request is built from. -/
theorem request_eq_outline {σ : Type} [Journal σ] {e : Endpoint} {value : Option Json} {s t : σ}
    {r : Http.Request} (h : (o.request e parameters value s).Ends (.ok r) t) :
    ∃ method server body, o.method = .ok method ∧ o.server e = .ok server
      ∧ r = { o.outline method server e.credentials parameters with body } := by
  unfold Operation.request at h
  obtain ⟨server, _, hserver, h⟩ := Run.ends_bind_ok.mp h
  obtain ⟨url, _, _, h⟩ := Run.ends_bind_ok.mp h
  obtain ⟨_, _, _, h⟩ := Run.ends_bind_ok.mp h
  obtain ⟨method, _, hmethod, h⟩ := Run.ends_bind_ok.mp h
  obtain ⟨body, _, _, h⟩ := Run.ends_bind_ok.mp h
  obtain ⟨hr, _⟩ := Run.ends_pure _ _ |>.mp h
  obtain ⟨hserver, _⟩ := Run.ends_ofExcept _ _ |>.mp hserver
  obtain ⟨hmethod, _⟩ := Run.ends_ofExcept _ _ |>.mp hmethod
  exact ⟨method, server, body, hmethod, hserver, (Except.ok.inj hr).symm⟩

/-- Headers that redaction cannot tell apart, with the same behind them. -/
theorem tails_of_sameHeader {v w : Option String} (h : SameHeader v w) {after : List Char}
    (setOff : ∀ d, after.head? = some d → isHeaderChar d = false) :
    Tails (headerText v ++ after) (headerText w ++ after) := by
  cases h with
  | none => exact .bare setOff
  | @some v w covered =>
    have shape : ∀ v : String, headerText (some v) ++ after
        = ' ' :: (headerName ++ (v.toList ++ after)) := by
      intro v
      simp [headerText]
    rw [shape, shape]
    exact .header covered setOff

/-- The line of a request before what credentials add to it. -/
def Operation.openText (o : Operation) (method server : String) (parameters : Dict Json) :
    List Char :=
  method.toList ++ ' ' :: ((Url.joinPath server (o.path parameters)).toList
    ++ queryText '?' (o.placedTexts .query parameters))

/-- What sets off the first query value that carries a credential. -/
def Operation.separator (o : Operation) (parameters : Dict Json) : Char :=
  if o.placedTexts .query parameters = [] then '?' else '&'

/-- Credentials add query values and the authorization header to a line. -/
theorem toList_outline (o : Operation) (method server : String) (credentials : Dict String)
    (parameters : Dict Json) :
    (requestLine (o.outline method server credentials parameters)).toList
      = o.openText method server parameters
        ++ queryText (o.separator parameters) ((o.carriers credentials).filterMap Carrier.query?)
        ++ headerText ((o.outline method server credentials parameters).header?
          "Authorization") := by
  obtain ⟨headers, outlined⟩ := outline_eq o method server credentials parameters
  rw [toList_requestLine, outlined, queryText_append]
  simp [Operation.openText, Operation.separator]

theorem toList_openLine (o : Operation) (method server : String) (credentials : Dict String)
    (parameters : Dict Json) :
    (o.openLine parameters (o.outline method server credentials parameters)).toList
      = o.openText method server parameters := by
  obtain ⟨headers, outlined⟩ := outline_eq o method server credentials parameters
  rw [Operation.openLine, toList_requestLine, outlined]
  exact List.append_nil _

/-- **Requests that differ in concealed credentials have lines that redaction cannot tell apart**,
whatever text the lines are quoted in. -/
theorem redact_outline {method server : String} (hm : o.method = .ok method)
    (h : List.Forall₂ (Concealed o.backend.schemes) given other)
    (hopen : endsInMark authorizationMarks (o.openLine parameters
      (o.outline method server given parameters)).toList = false) (before : String)
    {after : String} (setOff : ∀ d, after.toList.head? = some d → isHeaderChar d = false) :
    Text.redact (before ++ requestLine (o.outline method server given parameters) ++ after)
      = Text.redact
        (before ++ requestLine (o.outline method server other parameters) ++ after) := by
  have slots := slots_of_carriers (carriers_concealed h) (o.separator parameters)
  have header : SameHeader ((o.outline method server given parameters).header? "Authorization")
      ((o.outline method server other parameters).header? "Authorization") :=
    header?_writes (headerWrites_written h) .none
  have separator : isHeaderChar (o.separator parameters) = false := by
    unfold Operation.separator
    split <;> decide +kernel
  have front : endsInMark authorizationMarks
      (before.toList ++ o.openText method server parameters) = false := by
    obtain ⟨ne, colon⟩ := method_chars hm
    rw [toList_openLine] at hopen
    exact endsInMark_before ne colon hopen before.toList
  have hidden := Text.hideAll_slots slots separator (tails_of_sameHeader header setOff) front
  rw [redact_eq, redact_eq, String.toList_append, String.toList_append, String.toList_append,
    String.toList_append, toList_outline, toList_outline]
  simp only [List.append_assoc] at hidden ⊢
  rw [hidden]

variable {σ : Type} [Journal σ] {e₁ e₂ : Endpoint} {value : Option Json} {s₁ s₂ t₁ t₂ : σ}
  {r₁ r₂ : Http.Request}

/-- **Nothing that is noted tells concealed credentials apart.**  Two endpoints with the same server
and the same schemes have credentials that redaction hides as they are carried, and the line without
them does not end in a mark of an authorization header that lacks only its space.  Then what is
noted of the requests is the same, and so are failures to send them that quote the lines, set off
from what follows. -/
theorem credentials_are_hidden (hs : e₁.server = e₂.server)
    (hc : List.Forall₂ (Concealed o.backend.schemes) e₁.credentials e₂.credentials)
    (h₁ : (o.request e₁ parameters value s₁).Ends (.ok r₁) t₁)
    (h₂ : (o.request e₂ parameters value s₂).Ends (.ok r₂) t₂)
    (hopen : endsInMark authorizationMarks (o.openLine parameters r₁).toList = false) :
    Text.redact (requestLine r₁) = Text.redact (requestLine r₂)
    ∧ ∀ before after : String, (∀ d, after.toList.head? = some d → isHeaderChar d = false) →
      redactFailure (.network (before ++ requestLine r₁ ++ after))
        = redactFailure (.network (before ++ requestLine r₂ ++ after))
      ∧ redactFailure (.invalidRequest (before ++ requestLine r₁ ++ after))
        = redactFailure (.invalidRequest (before ++ requestLine r₂ ++ after)) := by
  obtain ⟨method, server, body₁, hm, hserver, rfl⟩ := request_eq_outline h₁
  obtain ⟨method', server', body₂, hm', hserver', rfl⟩ := request_eq_outline h₂
  obtain rfl := Except.ok.inj (hm.symm.trans hm')
  have same : o.server e₁ = o.server e₂ := by rw [Operation.server, Operation.server, hs]
  obtain rfl := Except.ok.inj (hserver.symm.trans (same.trans hserver'))
  generalize hr₁ : ({ o.outline method server e₁.credentials parameters with body := body₁ } :
    Http.Request) = r₁ at *
  generalize hr₂ : ({ o.outline method server e₂.credentials parameters with body := body₂ } :
    Http.Request) = r₂ at *
  have quoted : ∀ before after : String,
      (∀ d, after.toList.head? = some d → isHeaderChar d = false) →
      Text.redact (before ++ requestLine r₁ ++ after)
        = Text.redact (before ++ requestLine r₂ ++ after) := by
    intro before after setOff
    -- the body of a request is not noted
    subst hr₁ hr₂
    exact redact_outline hm hc hopen before setOff
  constructor
  · have plain := quoted "" "" fun _ none => by contradiction
    simpa only [String.empty_append, String.append_empty] using plain
  · intro before after setOff
    have same := quoted before after setOff
    exact ⟨congrArg Http.TransportError.network same,
      congrArg Http.TransportError.invalidRequest same⟩

/-! ## §6. A list of users. -/

/-- Lists users, for whoever has a key in the query and is logged in. -/
def listUsers (keyName : String) : Operation where
  capability := "users"
  operation :=
    { path := "/users", method := "get", operationId := some "users", parameters := []
      headers := [], content := none }
  backend :=
    { service := "users", defaultServer := some "https://api.example.com"
      schemes := [("key", .apiKey keyName .query), ("login", .bearer)] }

/-- The endpoint with these credentials. -/
def visitor (key login : String) : Endpoint where
  credentials := [("key", key), ("login", login)]

/-- The request that is built without asking for anything, if there is one. -/
def request? (o : Operation) (e : Endpoint) : Option Http.Request :=
  match o.request e [] none ({} : Run.State) with
  | .done (.ok r) _ => some r
  | _ => none

theorem ends_of_request? {e : Endpoint} {r : Http.Request} (h : request? o e = some r) :
    ∃ t, (o.request e [] none ({} : Run.State)).Ends (.ok r) t := by
  unfold request? at h
  split at h
  next r' t done =>
    obtain rfl := Option.some.inj h
    exact ⟨t, by rw [done]; exact ⟨rfl, rfl⟩⟩
  next => contradiction

theorem exists_request {e : Endpoint} {line : String}
    (h : (request? o e).map requestLine = some line) :
    ∃ r t, (o.request e [] none ({} : Run.State)).Ends (.ok r) t ∧ requestLine r = line := by
  obtain ⟨r, hr, hline⟩ := Option.map_eq_some_iff.mp h
  obtain ⟨t, ends⟩ := ends_of_request? hr
  exact ⟨r, t, ends, hline⟩

theorem listUsers_concealed {key login key' login' : String} (hk : IsSecret key.toList)
    (hk' : IsSecret key'.toList) (hl : IsToken login.toList) (hl' : IsToken login'.toList) :
    List.Forall₂ (Concealed (listUsers "api_key").backend.schemes)
      (visitor key login).credentials (visitor key' login').credentials := by
  have name : IsSecretName "api_key" :=
    ⟨by decide, "api_key=", List.mem_cons_self, by decide +kernel⟩
  have scheme : IsScheme "Bearer ".toList := .inr (.inl (by decide +kernel))
  refine .cons ⟨rfl, .query name hk hk'⟩ (.cons ⟨rfl, .header fun _ => .inr ?_⟩ .nil)
  exact ⟨"Bearer ".toList, login.toList, login'.toList, scheme, hl, hl', String.toList_append,
    String.toList_append⟩

/-- A key that is called `api_key` and a login of characters of tokens are hidden. -/
theorem credentials_are_hidden_api_key : ∃ r₁ r₂ t₁ t₂,
    ((listUsers "api_key").request (visitor "k-123" "abc.def") [] none ({} : Run.State)).Ends
      (.ok r₁) t₁
    ∧ ((listUsers "api_key").request (visitor "k-4567" "xyz") [] none ({} : Run.State)).Ends
      (.ok r₂) t₂
    ∧ requestLine r₁
      = "GET https://api.example.com/users?api_key=k-123 authorization: Bearer abc.def"
    ∧ requestLine r₂
      = "GET https://api.example.com/users?api_key=k-4567 authorization: Bearer xyz"
    ∧ Text.redact (requestLine r₁) = Text.redact (requestLine r₂) := by
  have built : (request? (listUsers "api_key") (visitor "k-123" "abc.def")).map
      (fun r => (requestLine r, (listUsers "api_key").openLine [] r))
      = some ("GET https://api.example.com/users?api_key=k-123 authorization: Bearer abc.def",
        "GET https://api.example.com/users") := by
    decide +kernel
  obtain ⟨r₁, hr₁, lines⟩ := Option.map_eq_some_iff.mp built
  obtain ⟨line₁, openLine⟩ := Prod.mk.inj lines
  obtain ⟨t₁, h₁⟩ := ends_of_request? hr₁
  obtain ⟨r₂, t₂, h₂, line₂⟩ : ∃ r t, ((listUsers "api_key").request (visitor "k-4567" "xyz") []
      none ({} : Run.State)).Ends (.ok r) t ∧ requestLine r
        = "GET https://api.example.com/users?api_key=k-4567 authorization: Bearer xyz" :=
    exists_request (by decide +kernel)
  have key : ∀ cs : List Char, cs ≠ [] ∧ cs.all Text.isValueChar = true
      ∧ endsInMark Text.headerMarks cs = false → IsSecret cs :=
    fun _ h => ⟨⟨h.1, h.2.1⟩, h.2.2⟩
  have token : ∀ s : String, s.toList ≠ [] ∧ s.toList.all Text.isTokenChar = true →
      IsToken s.toList := fun _ h => h
  have concealed := listUsers_concealed (key "k-123".toList (by decide +kernel))
    (key "k-4567".toList (by decide +kernel)) (token "abc.def" (by decide +kernel))
    (token "xyz" (by decide +kernel))
  have server : (visitor "k-123" "abc.def").server = (visitor "k-4567" "xyz").server := rfl
  have hidden := credentials_are_hidden server concealed h₁ h₂ (by rw [openLine]; decide +kernel)
  exact ⟨r₁, r₂, t₁, t₂, h₁, h₂, line₁, line₂, hidden.1⟩

/-- **A key of another name is noted as it is, and so is the rest of a token behind a tilde.** -/
theorem credentials_are_noted : ∃ r₁ r₂ r₃ t₁ t₂ t₃,
    ((listUsers "key").request (visitor "k-123" "abc~def") [] none ({} : Run.State)).Ends
      (.ok r₁) t₁
    ∧ ((listUsers "key").request (visitor "k-456" "abc~def") [] none ({} : Run.State)).Ends
      (.ok r₂) t₂
    ∧ ((listUsers "key").request (visitor "k-123" "abc~xyz") [] none ({} : Run.State)).Ends
      (.ok r₃) t₃
    ∧ Text.redact (requestLine r₁)
      = "GET https://api.example.com/users?key=k-123 authorization: Bearer <redacted>~def"
    ∧ Text.redact (requestLine r₁) ≠ Text.redact (requestLine r₂)
    ∧ Text.redact (requestLine r₁) ≠ Text.redact (requestLine r₃)
    ∧ redactFailure (.network (requestLine r₁)) ≠ redactFailure (.network (requestLine r₂))
    ∧ redactFailure (.network (requestLine r₁)) ≠ redactFailure (.network (requestLine r₃)) := by
  have built : ∀ key login line, (request? (listUsers "key") (visitor key login)).map requestLine
      = some line → ∃ r t, ((listUsers "key").request (visitor key login) [] none
        ({} : Run.State)).Ends (.ok r) t ∧ requestLine r = line :=
    fun _ _ _ => exists_request
  obtain ⟨r₁, t₁, h₁, line₁⟩ := built "k-123" "abc~def"
    "GET https://api.example.com/users?key=k-123 authorization: Bearer abc~def" (by decide +kernel)
  obtain ⟨r₂, t₂, h₂, line₂⟩ := built "k-456" "abc~def"
    "GET https://api.example.com/users?key=k-456 authorization: Bearer abc~def" (by decide +kernel)
  obtain ⟨r₃, t₃, h₃, line₃⟩ := built "k-123" "abc~xyz"
    "GET https://api.example.com/users?key=k-123 authorization: Bearer abc~xyz" (by decide +kernel)
  have noted₁ : Text.redact (requestLine r₁)
      = "GET https://api.example.com/users?key=k-123 authorization: Bearer <redacted>~def" := by
    rw [line₁]
    decide +kernel
  have noted₂ : Text.redact (requestLine r₂)
      = "GET https://api.example.com/users?key=k-456 authorization: Bearer <redacted>~def" := by
    rw [line₂]
    decide +kernel
  have noted₃ : Text.redact (requestLine r₃)
      = "GET https://api.example.com/users?key=k-123 authorization: Bearer <redacted>~xyz" := by
    rw [line₃]
    decide +kernel
  have otherKey : Text.redact (requestLine r₁) ≠ Text.redact (requestLine r₂) := by
    rw [noted₁, noted₂]
    decide
  have otherLogin : Text.redact (requestLine r₁) ≠ Text.redact (requestLine r₃) := by
    rw [noted₁, noted₃]
    decide
  exact ⟨r₁, r₂, r₃, t₁, t₂, t₃, h₁, h₂, h₃, noted₁, otherKey, otherLogin,
    fun same => otherKey (Http.TransportError.network.inj same),
    fun same => otherLogin (Http.TransportError.network.inj same)⟩

end Pageflow.Remote
