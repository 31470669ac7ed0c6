import CloudVinyl.Lib.Strings

set_option relaxedAutoImplicit false
set_option autoImplicit false

/-!
# The authority of a URL

The authority of an `http` URL is a host and an optional port behind a colon. The host is a
registered name, which includes the addresses of IPv4, or an address of IPv6 in square brackets: it
has colons of its own, so without the brackets nobody could tell them from that of the port.

## Main definitions

* `Authority.isIPv4`, `Authority.isIPv6` — the texts of addresses.
* `Authority.parse` — the host and the port of an authority.
* `Authority.ofURL` — those of a URL.

## Main results

* `Authority.ofURL_of_plain` — a host without colons is read with its port.
* `Authority.ofURL_eq_none` — a host with two colons is not read at all.
-/

namespace Authority

/-! ## Addresses -/

/-- `HEXDIG`, of both cases. -/
def isHexDigit (c : Char) : Bool := c.isDigit || ('a' ≤ c && c ≤ 'f') || ('A' ≤ c && c ≤ 'F')

/-- A decimal number up to 255, without leading zeros. -/
def isDecOctet (t : Text) : Bool :=
  t.all Char.isDigit && (Text.digits t).any (· ≤ 255) && (t.length = 1 || t.head? ≠ some '0')

/-- Four octets in decimal, with dots between them. -/
def isIPv4 (t : Text) : Bool := (t.splitOn '.').length = 4 && (t.splitOn '.').all isDecOctet

/-- A group of sixteen bits: one to four hexadecimal digits. -/
def isGroup (t : Text) : Bool := t ≠ [] && t.length ≤ 4 && t.all isHexDigit

/-- The groups between colons; an empty text has none. -/
def groups (t : Text) : List Text := if t = [] then [] else t.splitOn ':'

/-- The number of groups, of which the last two may be written as an address of IPv4. -/
def width : List Text → Option ℕ
  | [] => some 0
  | [last] => if isGroup last then some 1 else if isIPv4 last then some 2 else none
  | g :: gs => if isGroup g then (width gs).map (· + 1) else none

/-- The parts before and behind the first two colons in a row. -/
def cutGap : Text → Option (Text × Text)
  | ':' :: ':' :: rest => some ([], rest)
  | c :: rest => (cutGap rest).map fun p => (c :: p.1, p.2)
  | [] => none

/-- Eight groups; two colons in a row stand for one group or more that are zero. -/
def isIPv6 (t : Text) : Bool :=
  match cutGap t with
  | none => width (groups t) = some 8
  | some (before, after) =>
    (groups before).all isGroup &&
      (width (groups after)).any fun n => (groups before).length + n ≤ 7

/-! ## Authorities -/

/-- `unreserved` -/
def isUnreserved (c : Char) : Bool := c.isAlphanum || c ∈ "-._~".toList

/-- `sub-delims` -/
def isSubDelim (c : Char) : Bool := c ∈ "!$&'()*+,;=".toList

/-- Characters of a class, and others as `%` with two hexadecimal digits. -/
def isEncoded (plain : Char → Bool) : Text → Bool
  | '%' :: a :: b :: rest => isHexDigit a && isHexDigit b && isEncoded plain rest
  | c :: rest => plain c && isEncoded plain rest
  | [] => true

/-- `reg-name` -/
def isRegName (t : Text) : Bool := isEncoded (fun c => isUnreserved c || isSubDelim c) t

/-- `userinfo` -/
def isUserinfo (t : Text) : Bool := isEncoded (fun c => isUnreserved c || isSubDelim c || c = ':') t

/-- An address of a version to come. -/
def isIPvFuture (t : Text) : Bool :=
  match t with
  | 'v' :: rest =>
    match Text.cut rest '.' with
    | none => false
    | some (version, addr) =>
      version ≠ [] && version.all isHexDigit && addr ≠ [] &&
        addr.all fun c => isUnreserved c || isSubDelim c || c = ':'
  | _ => false

/-- The port behind the host, if there is one. -/
def parsePort : Text → Option (Option Text)
  | [] => some none
  | ':' :: port => if port.all Char.isDigit then some (some port) else none
  | _ => none

/-- The host and the port. -/
def parseHostPort (t : Text) : Option (Text × Option Text) :=
  match t with
  | '[' :: rest =>
    match Text.cut rest ']' with
    | none => none
    | some (lit, after) =>
      if isIPv6 lit || isIPvFuture lit then (parsePort after).map (lit, ·) else none
  | t =>
    let host := t.takeWhile (· ≠ ':')
    if isRegName host then (parsePort (t.dropWhile (· ≠ ':'))).map (host, ·) else none

/-- The host and the port of an authority, without the user information. -/
def parse (t : Text) : Option (Text × Option Text) :=
  match Text.cut t '@' with
  | none => parseHostPort t
  | some (userinfo, rest) => if isUserinfo userinfo then parseHostPort rest else none

/-- The authority ends where the path, the query or the fragment begins. -/
def endsAuthority (c : Char) : Bool := c = '/' || c = '?' || c = '#'

/-- The host and the port of an `http` URL. -/
def ofURL (url : Text) : Option (Text × Option Text) :=
  if Text.hasPrefix url "http://" then parse ((url.drop 7).takeWhile fun c => !endsAuthority c)
  else none

/-! ## The characters of addresses -/

/-- A decimal octet has digits only. -/
lemma isDigit_of_isDecOctet {t : Text} (h : isDecOctet t = true) {c : Char} (hc : c ∈ t) :
    c.isDigit = true := by
  unfold isDecOctet at h
  rw [Bool.and_eq_true, Bool.and_eq_true, List.all_eq_true] at h
  exact h.1.1 c hc

/-- The characters of a text are separators or stand in one of its pieces. -/
lemma mem_splitOn_of_mem (sep : Char) {c : Char} {t : Text} (h : c ∈ t) :
    c = sep ∨ ∃ w ∈ t.splitOn sep, c ∈ w := by
  have hjoin : [sep].intercalate (t.splitOn sep) = t := List.intercalate_splitOn sep
  rw [← hjoin] at h
  exact Words.mem_intercalate h

/-- An address of IPv4 has digits and dots only. -/
lemma mem_isIPv4 {t : Text} (h : isIPv4 t = true) {c : Char} (hc : c ∈ t) :
    c = '.' ∨ c.isDigit = true := by
  unfold isIPv4 at h
  rw [Bool.and_eq_true, List.all_eq_true] at h
  rcases mem_splitOn_of_mem '.' hc with hdot | ⟨w, hw, hcw⟩
  · exact .inl hdot
  · exact .inr (isDigit_of_isDecOctet (h.2 w hw) hcw)

/-- A character that an address of IPv6 may have. -/
def isAddressChar (c : Char) : Bool := isHexDigit c || c = ':' || c = '.'

/-- A group of IPv6 has characters of addresses only. -/
lemma isAddressChar_of_isGroup {t : Text} (h : isGroup t = true) {c : Char} (hc : c ∈ t) :
    isAddressChar c = true := by
  unfold isGroup at h
  rw [Bool.and_eq_true, List.all_eq_true] at h
  simp [isAddressChar, h.2 c hc]

/-- An address of IPv4 has characters of addresses only. -/
lemma isAddressChar_of_isIPv4 {t : Text} (h : isIPv4 t = true) {c : Char} (hc : c ∈ t) :
    isAddressChar c = true := by
  rcases mem_isIPv4 h hc with rfl | hdigit
  · rfl
  · simp [isAddressChar, isHexDigit, hdigit]

/-- Groups that have a width are made of such characters. -/
lemma isAddressChar_of_width {gs : List Text} {n : ℕ} (h : width gs = some n) {g : Text}
    (hg : g ∈ gs) {c : Char} (hc : c ∈ g) : isAddressChar c = true := by
  induction gs generalizing n with
  | nil => cases hg
  | cons first gs ih =>
    cases gs with
    | nil =>
      obtain rfl := List.mem_singleton.1 hg
      rw [width] at h
      split_ifs at h with hgroup hv4
      · exact isAddressChar_of_isGroup hgroup hc
      · exact isAddressChar_of_isIPv4 hv4 hc
    | cons second gs =>
      rw [width] at h
      · split_ifs at h with hgroup
        obtain ⟨m, hm, -⟩ := Option.map_eq_some_iff.1 h
        rcases List.mem_cons.1 hg with rfl | hg
        · exact isAddressChar_of_isGroup hgroup hc
        · exact ih hm hg
      · simp

/-- All groups but the last one count once. -/
lemma width_le {gs : List Text} {n : ℕ} (h : width gs = some n) : n ≤ gs.length + 1 := by
  induction gs generalizing n with
  | nil =>
    obtain rfl := Option.some.inj h
    exact Nat.zero_le _
  | cons first gs ih =>
    cases gs with
    | nil =>
      rw [width] at h
      split_ifs at h
      · obtain rfl := Option.some.inj h
        exact Nat.le_add_left 1 _
      · obtain rfl := Option.some.inj h
        exact le_refl _
    | cons second gs =>
      rw [width] at h
      · split_ifs at h
        obtain ⟨m, hm, rfl⟩ := Option.map_eq_some_iff.1 h
        exact Nat.succ_le_succ (ih hm)
      · simp

/-- A text has characters of addresses only if its groups do. -/
lemma isAddressChar_of_groups {t : Text}
    (h : ∀ g ∈ groups t, ∀ c ∈ g, isAddressChar c = true) : ∀ c ∈ t, isAddressChar c = true := by
  intro c hc
  have hne : t ≠ [] := List.ne_nil_of_mem hc
  rw [groups, if_neg hne] at h
  rcases mem_splitOn_of_mem ':' hc with rfl | ⟨g, hg, hcg⟩
  · rfl
  · exact h g hg c hcg

/-- A text that has a gap is what stands on its two sides. -/
lemma eq_of_cutGap {t before after : Text} (h : cutGap t = some (before, after)) :
    t = before ++ ':' :: ':' :: after := by
  induction t generalizing before with
  | nil => cases h
  | cons c t ih =>
    unfold cutGap at h
    split at h
    · rename_i rest heq
      obtain ⟨rfl, rfl⟩ := Prod.mk.inj (Option.some.inj h)
      exact heq
    · rename_i d rest _ heq
      obtain ⟨rfl, rfl⟩ := List.cons.inj heq
      obtain ⟨⟨u, v⟩, hcut, hpair⟩ := Option.map_eq_some_iff.1 h
      obtain ⟨rfl, rfl⟩ := Prod.mk.inj hpair
      rw [ih hcut]
      rfl
    · cases h

/-- **Two colons.** Every address of IPv6 has two colons, at least. -/
theorem exists_colons_of_isIPv6 {t : Text} (h : isIPv6 t = true) :
    ∃ a r, t = a ++ ':' :: r ∧ ':' ∈ r := by
  unfold isIPv6 at h
  split at h
  · rename_i hcut
    have hwidth : width (groups t) = some 8 := of_decide_eq_true h
    have hlength := width_le hwidth
    have hne : t ≠ [] := by
      rintro rfl
      simp [groups] at hlength
    rw [groups, if_neg hne] at hlength
    have hjoin : [':'].intercalate (t.splitOn ':') = t := List.intercalate_splitOn ':'
    rcases hpieces : t.splitOn ':' with _ | ⟨a, _ | ⟨b, _ | ⟨c, rest⟩⟩⟩
    · simp [hpieces] at hlength
    · simp [hpieces] at hlength
    · simp [hpieces] at hlength
    · rw [hpieces, Words.intercalate_cons_cons, Words.intercalate_cons_cons] at hjoin
      exact ⟨a, _, hjoin.symm, by simp⟩
  · rename_i before after hcut
    exact ⟨before, ':' :: after, eq_of_cutGap hcut, List.mem_cons_self⟩

/-- An address of IPv6 has characters of addresses only. -/
lemma isAddressChar_of_isIPv6 {t : Text} (h : isIPv6 t = true) :
    ∀ c ∈ t, isAddressChar c = true := by
  unfold isIPv6 at h
  split at h
  · exact isAddressChar_of_groups fun g hg c hc =>
      isAddressChar_of_width (of_decide_eq_true h) hg hc
  · rename_i before after hcut
    rw [Bool.and_eq_true, List.all_eq_true, Option.any_eq_true] at h
    obtain ⟨hbefore, n, hwidth, -⟩ := h
    rw [eq_of_cutGap hcut]
    intro c hc
    rcases List.mem_append.1 hc with hc | hc
    · exact isAddressChar_of_groups
        (fun g hg d hd => isAddressChar_of_isGroup (hbefore g hg) hd) c hc
    · rcases List.mem_cons.1 hc with rfl | hc
      · rfl
      · rcases List.mem_cons.1 hc with rfl | hc
        · rfl
        · exact isAddressChar_of_groups (fun g hg c hc => isAddressChar_of_width hwidth hg hc) c hc

/-! ## Reading URLs -/

/-- A text of plain characters is encoded as it is. -/
lemma isEncoded_of_forall {plain : Char → Bool} {t : Text} (h : ∀ c ∈ t, plain c = true)
    (hpercent : plain '%' = false) : isEncoded plain t = true := by
  induction t with
  | nil => rfl
  | cons c t ih =>
    have hc : plain c = true := h c List.mem_cons_self
    unfold isEncoded
    split
    · rename_i heq
      obtain ⟨rfl, -⟩ := List.cons.inj heq
      rw [hpercent] at hc
      cases hc
    · rename_i heq
      obtain ⟨rfl, rfl⟩ := List.cons.inj heq
      rw [hc, Bool.true_and]
      exact ih fun d hd => h d (List.mem_cons_of_mem _ hd)
    · rfl

/-- The colon of the port is the first one. -/
lemma takeWhile_append_cons {host r : Text} (h : ':' ∉ host) :
    (host ++ ':' :: r).takeWhile (· ≠ ':') = host ∧
      (host ++ ':' :: r).dropWhile (· ≠ ':') = ':' :: r := by
  have hall : ∀ c ∈ host, decide (c ≠ ':') = true := by
    intro c hc
    rw [decide_eq_true_eq]
    rintro rfl
    exact h hc
  rw [List.takeWhile_append_of_pos hall, List.dropWhile_append_of_pos hall]
  simp

/-- If two colons follow, the port has one. -/
lemma exists_dropWhile_eq {a r : Text} (h : ':' ∈ r) :
    ∃ port, (a ++ ':' :: r).dropWhile (· ≠ ':') = ':' :: port ∧ ':' ∈ port := by
  induction a with
  | nil => exact ⟨r, by simp, h⟩
  | cons c a ih =>
    by_cases hc : c = ':'
    · exact ⟨a ++ ':' :: r, by simp [hc], by simp⟩
    · obtain ⟨port, hport, hmem⟩ := ih
      exact ⟨port, by simpa [hc] using hport, hmem⟩

/-- A port has no colon. -/
lemma parsePort_eq_none {port : Text} (h : ':' ∈ port) : parsePort (':' :: port) = none := by
  have hall : port.all Char.isDigit = false := by
    rw [List.all_eq_false]
    exact ⟨':', h, by decide⟩
  rw [parsePort, hall]
  rfl

/-- A character that neither ends an authority nor stands for user information or brackets. -/
def isInner (c : Char) : Bool := c ∉ ['@', '[', '/', '?', '#']

/-- A class without delimiters stays inside an authority. -/
lemma isInner_of {p : Char → Bool} (hp : ['@', '[', '/', '?', '#'].all (!p ·) = true) {c : Char}
    (h : p c = true) : isInner c = true := by
  rw [isInner, decide_eq_true_eq]
  intro hc
  have hnot := List.all_eq_true.1 hp c hc
  rw [h] at hnot
  cases hnot

/-- Digits stay inside an authority. -/
lemma isInner_of_isDigit {c : Char} (h : c.isDigit = true) : isInner c = true :=
  isInner_of (p := Char.isDigit) (by decide) h

/-- The characters of addresses stay inside an authority. -/
lemma isInner_of_isAddressChar {c : Char} (h : isAddressChar c = true) : isInner c = true :=
  isInner_of (p := isAddressChar) (by decide) h

/-- The authority goes up to the path. -/
lemma ofURL_append {a rest : Text} (ha : ∀ c ∈ a, isInner c = true)
    (hrest : rest.head?.all endsAuthority = true) : ofURL ("http://" ++ (a ++ rest)) = parse a := by
  have hpre : Text.hasPrefix ("http://" ++ (a ++ rest)) "http://" = true :=
    Text.hasPrefix_iff.2 (List.prefix_append _ _)
  have hinner : ∀ c ∈ a, (!endsAuthority c) = true := by
    intro c hc
    have hnot := ha c hc
    simp only [isInner, List.mem_cons, decide_eq_true_eq, not_or] at hnot
    simp [endsAuthority, hnot]
  have htake : (a ++ rest).takeWhile (fun c => !endsAuthority c) = a := by
    rw [List.takeWhile_append_of_pos hinner]
    cases rest with
    | nil => simp
    | cons c rest =>
      have hc : endsAuthority c = true := hrest
      simp [hc]
  have hdrop : ("http://".toList ++ (a ++ rest)).drop 7 = a ++ rest := rfl
  rw [ofURL, if_pos hpre, hdrop, htake]

/-- Without user information and brackets an authority is split at its first colon. -/
lemma parse_eq {t : Text} (h : ∀ c ∈ t, isInner c = true) :
    parse t = if isRegName (t.takeWhile (· ≠ ':')) then
      (parsePort (t.dropWhile (· ≠ ':'))).map (t.takeWhile (· ≠ ':'), ·) else none := by
  have hcut : Text.cut t '@' = none := by
    cases hc : Text.cut t '@' with
    | none => rfl
    | some p =>
      obtain ⟨before, after⟩ := p
      have heq := Text.cut_eq_some_iff.1 hc
      exact absurd (h '@' (heq.1 ▸ by simp)) (by decide)
  rw [parse, hcut]
  dsimp only
  unfold parseHostPort
  split
  · exact absurd (h '[' List.mem_cons_self) (by decide)
  · rfl

/-- **A host without colons** is read with its port. -/
theorem ofURL_of_plain {host port rest : Text} (hname : isRegName host = true)
    (hinner : ∀ c ∈ host, isInner c = true) (hcolon : ':' ∉ host)
    (hport : port.all Char.isDigit = true) (hrest : rest.head?.all endsAuthority = true) :
    ofURL ("http://" ++ (host ++ ':' :: port ++ rest)) = some (host, some port) := by
  have hall : ∀ c ∈ host ++ ':' :: port, isInner c = true := by
    intro c hc
    rcases List.mem_append.1 hc with hc | hc
    · exact hinner c hc
    · rcases List.mem_cons.1 hc with rfl | hc
      · decide
      · exact isInner_of_isDigit (List.all_eq_true.1 hport c hc)
  obtain ⟨htake, hdrop⟩ := takeWhile_append_cons (r := port) hcolon
  rw [ofURL_append hall hrest, parse_eq hall, htake, hdrop, if_pos hname, parsePort, if_pos hport,
    Option.map_some]

/-- **A host with two colons** is not read at all. -/
theorem ofURL_eq_none {a r rest : Text} (h : ':' ∈ r)
    (hinner : ∀ c ∈ a ++ ':' :: r, isInner c = true)
    (hrest : rest.head?.all endsAuthority = true) :
    ofURL ("http://" ++ (a ++ ':' :: r ++ rest)) = none := by
  obtain ⟨port, hport, hmem⟩ := exists_dropWhile_eq (a := a) h
  rw [ofURL_append hinner hrest, parse_eq hinner, hport, parsePort_eq_none hmem, Option.map_none,
    ite_self]

example : ofURL "http://[fd00::a]:8080/" = some ("fd00::a".toList, some "8080".toList) := by decide

end Authority
