/-
  Pageflow.Proofs.Authorities — where the authority of a web address ends.

  A host of the web has no controls and no spaces.  Its text is read in several steps, escapes
  first, then letters that are mapped to others, then labels that are encoded; but a control or a
  space that is written as such comes through all of them, and is refused in the end.  Brackets and
  ports end in characters that can be seen anyway.  So no authority ends in a control or a space.

      authorityOf scheme last cs = .ok a  →  the last character of `cs` can be seen

  Main statements: `Host.visible_of_parse` and `visible_of_authorityOf`.
-/
import Mathlib.Data.List.TakeDrop
import Pageflow.Proofs.Spellings
import Pageflow.Proofs.Templates
import Pageflow.Proofs.Tokens
import Pageflow.Url.Basic

namespace Pageflow

/-! ## §1. Bytes of characters that are written as such. -/

namespace Utf8

theorem encode_eq (s : String) : encode s = s.toList.flatMap String.utf8EncodeChar := by
  rw [encode, toList_eq_data]
  conv_lhs => rw [← String.ofList_toList (s := s), String.toByteArray_ofList, List.utf8Encode,
    List.toList_data_toByteArray]

theorem utf8EncodeChar_of_ascii {c : Char} (ascii : c.toNat < 128) :
    String.utf8EncodeChar c = [UInt8.ofNat c.toNat] := by
  have code : c.val.toNat ≤ 127 := Nat.le_of_lt_succ ascii
  simp only [String.utf8EncodeChar, if_pos code]
  rfl

/-- The bytes of any other character have their highest bit set. -/
theorem le_of_mem_utf8EncodeChar {c : Char} (beyond : 128 ≤ c.toNat) {b : UInt8}
    (h : b ∈ String.utf8EncodeChar c) : 128 ≤ b.toNat := by
  have code : ¬c.val.toNat ≤ 127 := Nat.not_le_of_lt beyond
  simp only [String.utf8EncodeChar, if_neg code] at h
  split at h
  · simp only [List.mem_cons, List.not_mem_nil, or_false] at h
    obtain rfl | rfl := h <;> rw [UInt8.toNat_ofNat'] <;> omega
  split at h
  · simp only [List.mem_cons, List.not_mem_nil, or_false] at h
    obtain rfl | rfl | rfl := h <;> rw [UInt8.toNat_ofNat'] <;> omega
  · simp only [List.mem_cons, List.not_mem_nil, or_false] at h
    obtain rfl | rfl | rfl | rfl := h <;> rw [UInt8.toNat_ofNat'] <;> omega

/-- **An ASCII character is in a text exactly if its byte is among the bytes of the text.** -/
theorem mem_encode_iff {s : String} {c : Char} (ascii : c.toNat < 128) :
    UInt8.ofNat c.toNat ∈ encode s ↔ c ∈ s.toList := by
  have code : (UInt8.ofNat c.toNat).toNat = c.toNat := by
    rw [UInt8.toNat_ofNat']
    omega
  rw [encode_eq, List.mem_flatMap]
  constructor
  · rintro ⟨d, hd, h⟩
    by_cases small : d.toNat < 128
    · rw [utf8EncodeChar_of_ascii small, List.mem_singleton] at h
      have same := congrArg UInt8.toNat h
      rw [code, UInt8.toNat_ofNat'] at same
      have same : c.toNat = d.toNat := by omega
      rwa [Char.toNat_inj.mp same]
    · have := le_of_mem_utf8EncodeChar (Nat.le_of_not_lt small) h
      omega
  · intro h
    exact ⟨c, h, by rw [utf8EncodeChar_of_ascii ascii]; exact List.mem_singleton_self _⟩

end Utf8

namespace Percent

/-- A byte that no escape is written with comes through. -/
theorem mem_decodeBytes {b : UInt8} (plain : b ≠ percent) (digit : digitValue? b = none)
    {bytes : Bytes} (h : b ∈ bytes) : b ∈ decodeBytes bytes := by
  fun_induction decodeBytes bytes with
  | case1 => exact h
  | case2 => exact h
  | case3 => exact h
  | case4 d e rest high low hd he ih =>
    rcases List.mem_cons.mp h with rfl | h
    · contradiction
    rcases List.mem_cons.mp h with rfl | h
    · rw [digit] at he; contradiction
    rcases List.mem_cons.mp h with rfl | h
    · rw [digit] at hd; contradiction
    · exact List.mem_cons_of_mem _ (ih h)
  | case5 d e rest _ ih =>
    rcases List.mem_cons.mp h with rfl | h
    · exact List.mem_cons_self
    · exact List.mem_cons_of_mem _ (ih h)
  | case6 a d e rest _ ih =>
    rcases List.mem_cons.mp h with rfl | h
    · exact List.mem_cons_self
    · exact List.mem_cons_of_mem _ (ih h)

end Percent

/-- A character that is no separator is in one of the pieces. -/
theorem Text.exists_mem_splitAt {sep c : Char} {cs : List Char} (h : c ∈ cs) (hc : c ≠ sep) :
    ∃ piece ∈ splitAt sep cs, c ∈ piece := by
  induction cs with
  | nil => contradiction
  | cons d cs ih =>
    by_cases hd : d = sep
    · rw [hd, splitAt_cons_self]
      rcases List.mem_cons.mp h with rfl | h
      · contradiction
      · obtain ⟨piece, hp, own⟩ := ih h
        exact ⟨piece, List.mem_cons_of_mem _ hp, own⟩
    · rw [splitAt_cons_of_ne hd]
      cases pieces : splitAt sep cs with
      | nil => exact absurd pieces (splitAt_ne_nil cs)
      | cons first more =>
        rw [List.modifyHead_cons]
        rcases List.mem_cons.mp h with rfl | h
        · exact ⟨c :: first, List.mem_cons_self, List.mem_cons_self⟩
        obtain ⟨piece, hp, own⟩ := ih h
        rw [pieces] at hp
        rcases List.mem_cons.mp hp with rfl | hp
        · exact ⟨d :: piece, List.mem_cons_self, List.mem_cons_of_mem _ own⟩
        · exact ⟨piece, List.mem_cons_of_mem _ hp, own⟩

/-! ## §2. Hosts. -/

namespace Url

theorem exists_of_mapM {α β : Type} {f : α → Option β} {a : α} :
    ∀ {as : List α} {bs : List β}, as.mapM f = some bs → a ∈ as → ∃ b ∈ bs, f a = some b
  | [], _, _, ha => absurd ha List.not_mem_nil
  | a' :: as, bs, h, ha => by
      rw [List.mapM_cons] at h
      obtain ⟨b, hb, h⟩ := Option.bind_eq_some_iff.mp h
      obtain ⟨rest, hr, h⟩ := Option.bind_eq_some_iff.mp h
      obtain rfl := Option.some.inj h
      rcases List.mem_cons.mp ha with rfl | ha
      · exact ⟨b, List.mem_cons_self, hb⟩
      · obtain ⟨b', hb', own⟩ := exists_of_mapM hr ha
        exact ⟨b', List.mem_cons_of_mem _ hb', own⟩

/-- Whether a character is a control or a space. -/
def isHidden (c : Char) : Bool := c.toNat ≤ 32

variable {c : Char}

theorem isHidden_ascii (h : isHidden c = true) : c.toNat < 128 := by
  have : c.toNat ≤ 32 := of_decide_eq_true h
  omega

namespace Punycode

theorem prefix_insertAt (next basic : Nat) (codes : List Nat) :
    ∀ p : Progress, p.output <+: (insertAt next basic p codes).output := by
  induction codes with
  | nil => exact fun p => List.prefix_rfl
  | cons code codes ih =>
    intro p
    rw [insertAt, List.foldl_cons]
    refine List.IsPrefix.trans ?_ (ih _)
    split
    · exact List.prefix_rfl
    split
    · exact List.prefix_append _ _
    · exact List.prefix_rfl

theorem prefix_insertAll {written : List Char} (codes : List Nat) (basic : Nat) (left : List Nat) :
    ∀ (current : Nat) (p : Progress), written <+: p.output →
      written <+: (insertAll codes basic current left p).output := by
  induction left with
  | nil => exact fun _ _ h => h
  | cons next left ih =>
    intro current p h
    have more := prefix_insertAt next basic codes
      { p with distance := p.distance + (next - current) * (p.handled + 1) }
    rw [insertAll]
    exact ih _ _ (h.trans more)

/-- The ASCII characters of a label are also in its encoded form. -/
theorem mem_encode {label : List Char} (ascii : c.toNat < 128) (h : c ∈ label) :
    c ∈ encode label := by
  have basic : c ∈ label.filter fun c => c.toNat < 128 :=
    List.mem_filter.mpr ⟨h, decide_eq_true ascii⟩
  refine (prefix_insertAll _ _ _ _ _ List.prefix_rfl).subset ?_
  dsimp only
  rw [if_neg (by simpa using List.ne_nil_of_mem basic)]
  exact List.mem_append_left _ basic

end Punycode

namespace Host

theorem mapDomainChar_of_isHidden (h : isHidden c = true) : mapDomainChar c = [c] := by
  have small : c.toNat ≤ 32 := of_decide_eq_true h
  rw [mapDomainChar, if_pos (isHidden_ascii h)]
  unfold Char.toLower
  rw [dif_neg]
  rintro ⟨upper, _⟩
  have : 65 ≤ c.toNat := UInt32.le_iff_toNat_le.mp upper
  omega

theorem mem_asciiLabel? {label ascii : List Char} (h : asciiLabel? label = some ascii)
    (small : c.toNat < 128) (hc : c ∈ label) : c ∈ ascii := by
  unfold asciiLabel? at h
  split at h
  · split at h
    · exact Option.some.inj h ▸ hc
    · obtain ⟨_, _, h⟩ := Option.bind_eq_some_iff.mp h
      split at h
      · contradiction
      · exact Option.some.inj h ▸ hc
  · split at h
    · contradiction
    · exact Option.some.inj h ▸ List.mem_append_right _ (Punycode.mem_encode small hc)

theorem mem_of_mem_joinLabels {label : List Char} {labels : List (List Char)}
    (hl : label ∈ labels) (hc : c ∈ label) : c ∈ joinLabels labels := by
  have mem : label ∈ labels.intersperse ['.'] := by
    fun_induction List.intersperse ['.'] labels with
    | case1 => exact hl
    | case2 => exact hl
    | case3 a rest _ ih =>
      rcases List.mem_cons.mp hl with rfl | hl
      · exact List.mem_cons_self
      · exact List.mem_cons_of_mem _ (List.mem_cons_of_mem _ (ih hl))
  exact List.mem_flatten.mpr ⟨label, mem, hc⟩

theorem domain?_of_isHidden {name : List Char} (h : isHidden c = true) (hc : c ∈ name) :
    domain? name = none := by
  have mapped : c ∈ name.flatMap mapDomainChar := by
    refine List.mem_flatMap.mpr ⟨c, hc, ?_⟩
    rw [mapDomainChar_of_isHidden h]
    exact List.mem_singleton_self c
  have noDot : c ≠ '.' := by
    rintro rfl
    contradiction
  obtain ⟨label, hl, hc⟩ := Text.exists_mem_splitAt mapped noDot
  cases labels : (Text.splitAt '.' (name.flatMap mapDomainChar)).mapM asciiLabel? with
  | none => rw [domain?, labels]; rfl
  | some ascii =>
    obtain ⟨form, hf, own⟩ := exists_of_mapM labels hl
    have joined := mem_of_mem_joinLabels hf (mem_asciiLabel? own (isHidden_ascii h) hc)
    have forbidden : (joinLabels ascii).any isForbiddenInDomain = true := by
      refine List.any_eq_true.mpr ⟨c, joined, ?_⟩
      have small : decide (c.toNat ≤ 32) = true := h
      rw [isForbiddenInDomain, small]
      rfl
    rw [domain?, labels]
    exact if_pos forbidden

/-- **A host has no controls and no spaces**, unless it is in brackets. -/
theorem visible_of_parse {cs : List Char} {host : Host} (h : parse cs = .ok host)
    (plain : cs.head? ≠ some '[') (hc : c ∈ cs) : isHidden c = false := by
  by_contra hidden
  rw [Bool.not_eq_false] at hidden
  have low : ∀ n : Fin 33, UInt8.ofNat n ≠ Percent.percent
      ∧ Percent.digitValue? (UInt8.ofNat n) = none := by decide
  obtain ⟨unescaped, digit⟩ := low ⟨c.toNat, Nat.lt_succ_of_le (of_decide_eq_true hidden)⟩
  have byte : UInt8.ofNat c.toNat ∈ Percent.decodeBytes (Utf8.encode (String.ofList cs)) := by
    refine Percent.mem_decodeBytes unescaped digit ?_
    rwa [Utf8.mem_encode_iff (isHidden_ascii hidden), String.toList_ofList]
  have refused : parse cs = .error .invalidDomainName := by
    unfold parse
    split
    next => exact absurd rfl plain
    next =>
      split
      next => rfl
      next decoded hd =>
        have hc : c ∈ decoded.toList := by
          rw [← Utf8.mem_encode_iff (isHidden_ascii hidden), Utf8.encode_of_decode? hd]
          exact byte
        rw [domain?_of_isHidden hidden hc]
  rw [refused] at h
  contradiction

/-- A host does not end in a control or a space, in brackets or not. -/
theorem last_visible_of_parse {front : List Char} {host : Host}
    (h : parse (front ++ [c]) = .ok host) : isHidden c = false := by
  by_cases plain : (front ++ [c]).head? = some '['
  · cases front with
    | nil =>
      obtain rfl : c = '[' := Option.some.inj plain
      rfl
    | cons d inside =>
      obtain rfl : d = '[' := Option.some.inj plain
      have h : parseBracketed (inside ++ [c]) = .ok host := h
      rw [parseBracketed, List.reverse_append, List.reverse_singleton, List.singleton_append] at h
      split at h
      next back closed =>
        obtain rfl : c = ']' := (List.cons.inj closed).1
        rfl
      next => contradiction
  · exact visible_of_parse h plain (List.mem_append_right _ (List.mem_singleton_self c))

end Host

/-! ## §3. Authorities. -/

variable {scheme : String}

/-- A web address has a host. -/
theorem exists_parse_of_hostOf (special : isSpecial scheme = true) {cs rest : List Char}
    {host : Option Host} (h : hostOf scheme cs rest = .ok host) :
    ∃ own, Host.parse cs = .ok own ∧ host = some own := by
  unfold hostOf at h
  rw [special] at h
  cases cs with
  | nil => simp at h
  | cons d cs =>
    cases parsed : Host.parse (d :: cs) with
    | error e => simp [parsed, Except.map] at h
    | ok own => exact ⟨own, rfl, by simpa [parsed, Except.map, eq_comm] using h⟩

/-- So nothing depends on what follows its authority. -/
theorem authorityOf_special (special : isSpecial scheme = true) (last last' : Bool)
    (cs : List Char) : authorityOf scheme last cs = authorityOf scheme last' cs := by
  unfold authorityOf
  dsimp only
  split
  · rfl
  next none =>
    obtain ⟨_, _, some⟩ := exists_parse_of_hostOf special none
    contradiction
  · rfl

/-- Behind its user the authority of a web address is a host and a port. -/
theorem exists_parts_of_authorityOf (special : isSpecial scheme = true) {last : Bool}
    {cs : List Char} {a : Authority} (h : authorityOf scheme last cs = .ok a) :
    ∃ host port, Host.parse (cutHost false (userAndHost cs).2).1 = .ok host
      ∧ port? scheme (cutHost false (userAndHost cs).2).2 = .ok port := by
  unfold authorityOf at h
  dsimp only at h
  split at h
  next => contradiction
  next none =>
    obtain ⟨_, _, some⟩ := exists_parse_of_hostOf special none
    contradiction
  next parsed =>
    obtain ⟨host, own, _⟩ := exists_parse_of_hostOf special parsed
    split at h
    next => contradiction
    next port number => exact ⟨host, port, own, number⟩

/-- A host and what follows it are all there is; what follows begins with a colon. -/
theorem cutHost_eq (cs : List Char) : ∀ bracketed,
    (cutHost bracketed cs).1 ++ (cutHost bracketed cs).2 = cs
      ∧ ∀ d, (cutHost bracketed cs).2.head? = some d → d = ':' := by
  induction cs with
  | nil => exact fun _ => ⟨rfl, fun _ h => by contradiction⟩
  | cons d cs ih =>
    intro bracketed
    unfold cutHost
    split
    next colon =>
      refine ⟨rfl, ?_⟩
      rintro _ ⟨⟩
      exact (Bool.and_eq_true_iff.mp colon).1 |> of_decide_eq_true
    next => exact ⟨congrArg (d :: ·) (ih _).1, (ih _).2⟩

/-- What ends an authority ends its place, unless it is an at sign. -/
theorem userAndHost_append (front : List Char) (hc : c ≠ '@') :
    ∃ place, (userAndHost (front ++ [c])).2 = place ++ [c] := by
  unfold userAndHost
  rw [List.reverse_append, List.reverse_singleton, List.singleton_append,
    List.span_eq_takeWhile_dropWhile, List.takeWhile_cons, if_pos (decide_eq_true hc)]
  split
  next back _ _ cut =>
    obtain rfl := (Prod.mk.inj cut).1
    exact ⟨_, List.reverse_cons⟩
  next => exact ⟨front, rfl⟩

/-- A port that is not left out ends in a digit. -/
theorem isDigit_of_port? {front : List Char} {port : Option Nat}
    (h : port? scheme (':' :: (front ++ [c])) = .ok port) : c.isDigit = true := by
  simp only [port?] at h
  split at h
  next number =>
    unfold portNumber? at number
    split at number
    next n value =>
      exact (Json.digitsValue?_eq_some_iff.mp value).1 c
        (List.mem_append_right _ (List.mem_singleton_self c))
    next => contradiction
  next => contradiction

theorem not_isHidden_of_isDigit (h : c.isDigit = true) : isHidden c = false := by
  obtain ⟨least, _⟩ := Char.isDigit_iff_toNat.mp h
  have zero : '0'.toNat = 48 := rfl
  refine decide_eq_false ?_
  show ¬c.toNat ≤ 32
  omega

/-- **The authority of a web address does not end in a control or a space.** -/
theorem visible_of_authorityOf (special : isSpecial scheme = true) {last : Bool}
    {front : List Char} {a : Authority} (h : authorityOf scheme last (front ++ [c]) = .ok a) :
    isHidden c = false := by
  by_cases sign : c = '@'
  · rw [sign]
    decide
  obtain ⟨host, port, parsed, number⟩ := exists_parts_of_authorityOf special h
  obtain ⟨place, hplace⟩ := userAndHost_append front sign
  rw [hplace] at parsed number
  obtain ⟨whole, colon⟩ := cutHost_eq (place ++ [c]) false
  cases rest : (cutHost false (place ++ [c])).2 with
  | nil =>
    -- without a port the authority ends in the host
    rw [rest, List.append_nil] at whole
    rw [whole] at parsed
    exact Host.last_visible_of_parse parsed
  | cons d digits =>
    -- and with one in a digit, or in the colon
    obtain rfl := colon d (by rw [rest]; rfl)
    rw [rest] at whole number
    rcases List.eq_nil_or_concat digits with rfl | ⟨digits, last, rfl⟩
    · obtain rfl : ':' = c := (List.cons.inj (List.append_inj' whole rfl).2).1
      decide
    · rw [List.concat_eq_append] at number
      rw [List.concat_eq_append, List.append_cons, ← List.append_assoc] at whole
      obtain rfl : last = c := (List.cons.inj (List.append_inj' whole rfl).2).1
      exact not_isHidden_of_isDigit (isDigit_of_port? number)

end Url

end Pageflow
