/-
  Audit-log rows and the addresses in them (backend/src/common/utils/ip.util.ts,
  backend/src/audit-log/providers/create-audit-log.provider.ts).

  An address in dotted form is masked; whatever has a colon in it is kept.  Hence the stored address
  tells the hosts of a network apart where they are given as IPv4-mapped IPv6 addresses, and addresses
  that are not valid are stored as well.
-/
import NovaLabs.Lib.JsData

namespace Audit

open Lib JsString

/-! ## Masking -/

def isDigit (c : UInt16) : Bool := codeUnit '0' ≤ c ∧ c ≤ codeUnit '9'

/-- `\d{1,3}`. -/
def octetPattern : Pattern UInt16 :=
  .seq (.one isDigit) (.opt (.seq (.one isDigit) (.opt (.one isDigit))))

def dotPattern : Pattern UInt16 := .one (· = codeUnit '.')

/-- `/^(\d{1,3})\.(\d{1,3})\.(\d{1,3})\.\d{1,3}$/`. -/
def ipv4Re : List (Pattern UInt16) :=
  [octetPattern, dotPattern, octetPattern, dotPattern, octetPattern, dotPattern, octetPattern]

/-- `parseInt(digits, 10)`. -/
def parseInt (digits : JsString) : ℕ :=
  digits.foldl (fun n c => 10 * n + (c.toNat - (codeUnit '0').toNat)) 0

def maskIpv4 (raw : Option JsString) : Option JsString := do
  let raw ← raw.filter (· ≠ [])
  let trimmed := trim raw
  match ← Pattern.captures ipv4Re trimmed with
  | [a, _, b, _, c, _, _] =>
    if [a, b, c].any fun o => parseInt o > 255 then none
    else some (a ++ codeUnit '.' :: (b ++ codeUnit '.' :: (c ++ of ".0")))
  | _ => none

def isIpv4 (raw : Option JsString) : Bool := (maskIpv4 raw).isSome

def isIpv6 (raw : Option JsString) : Bool := (raw.filter (· ≠ [])).any (codeUnit ':' ∈ ·)

def maskIp (raw : Option JsString) : Option JsString := do
  let raw ← raw.filter (· ≠ [])
  if isIpv4 raw then maskIpv4 raw
  else if isIpv6 raw then some (trim raw)
  else none

def requiresSecurityRetention (raw : Option JsString) : Bool := isIpv6 raw

/-! ## Rows -/

structure CreateAuditLogInput where
  actorId : Option JsString := none
  actorEmail : Option JsString := none
  actorRole : Option JsString := none
  action : JsString
  targetType : Option JsString := none
  targetId : Option JsString := none
  ipAddress : Option JsString := none
  userAgent : Option JsString := none
  metadata : Option JsData := none

/-- A row of the table `audit_log`. -/
structure AuditLog where
  actorId : Option JsString
  actorEmail : Option JsString
  actorRole : Option JsString
  action : JsString
  targetType : Option JsString
  targetId : Option JsString
  ipAddress : Option JsString
  userAgent : Option JsString
  metadata : Option JsData

/-- A row of the table `security_ip_log`, that is kept for a short time. -/
structure SecurityIpLog where
  rawIp : JsString
  action : JsString

/-- The actions that are security-grade events. -/
def securityActions : List JsString :=
  [of "login", of "logout", of "impersonate", of "auth.refresh.family.revoked"]

/-- `CreateAuditLogProvider.create`: the row, and the raw address where it is retained. -/
def createAuditLog (input : CreateAuditLogInput) : AuditLog × Option SecurityIpLog :=
  let rawIp := input.ipAddress
  let maskedIp := maskIp rawIp
  let log : AuditLog :=
    { actorId := input.actorId
      actorEmail := input.actorEmail
      actorRole := input.actorRole
      action := input.action
      targetType := input.targetType
      targetId := input.targetId
      ipAddress := maskedIp
      userAgent := input.userAgent
      metadata := input.metadata }
  let isSecurityAction := input.action ∈ securityActions
  (log, do
    let raw ← rawIp
    if isSecurityAction ∨ requiresSecurityRetention raw then
      some { rawIp := raw, action := input.action }
    else none)

/-! ## Addresses -/

/-- A decimal digit. -/
def digit (k : ℕ) : UInt16 := (48 + k).toUInt16

/-- A number below 1000, in decimal. -/
def decimal (n : ℕ) : JsString :=
  if n < 10 then [digit n]
  else if n < 100 then [digit (n / 10), digit (n % 10)]
  else [digit (n / 100), digit (n / 10 % 10), digit (n % 10)]

/-- An IPv4 host. -/
structure Host where
  a : Fin 256
  b : Fin 256
  c : Fin 256
  d : Fin 256
  deriving DecidableEq

/-- The host in dotted form. -/
def Host.dotted (h : Host) : JsString :=
  decimal h.a ++ codeUnit '.' :: (decimal h.b ++ codeUnit '.' :: (decimal h.c ++
    codeUnit '.' :: decimal h.d))

/-- The hosts are of the same /24 network. -/
def Host.SameNetwork (h h' : Host) : Prop := h.a = h'.a ∧ h.b = h'.b ∧ h.c = h'.c

/-- A valid IPv4 address. -/
def IsIpv4Text (text : JsString) : Prop := ∃ h : Host, text = h.dotted

def isHexDigit (c : UInt16) : Bool :=
  isDigit c ∨ codeUnit 'a' ≤ c ∧ c ≤ codeUnit 'f' ∨ codeUnit 'A' ≤ c ∧ c ≤ codeUnit 'F'

/-- The text is of 16-bit groups, `n` of them. -/
def Groups (groups : List JsString) (n : ℕ) : Prop :=
  n = groups.length ∧ ∀ g ∈ groups, 1 ≤ g.length ∧ g.length ≤ 4 ∧ ∀ c ∈ g, isHexDigit c

/-- The last two groups may be given as an IPv4 address. -/
def LastGroups (groups : List JsString) (n : ℕ) : Prop :=
  Groups groups n ∨ ∃ init v4 k, groups = init ++ [v4] ∧ Groups init k ∧ IsIpv4Text v4 ∧ n = k + 2

/-- A valid IPv6 address: eight groups, or fewer where `::` stands for groups of zeros. -/
def IsIpv6Text (text : JsString) : Prop :=
  (∃ groups, LastGroups groups 8 ∧ text = [codeUnit ':'].intercalate groups) ∨
    ∃ left right n k, Groups left n ∧ LastGroups right k ∧ n + k ≤ 7 ∧
      text = [codeUnit ':'].intercalate left ++ [codeUnit ':', codeUnit ':'] ++
        [codeUnit ':'].intercalate right

/-- An address of the host: in dotted form, or IPv4-mapped. -/
inductive Denotes (h : Host) : JsString → Prop
  | dotted : Denotes h h.dotted
  | mapped {f : JsString} : f.length = 4 → (∀ c ∈ f, c = codeUnit 'f' ∨ c = codeUnit 'F') →
      Denotes h (of "::" ++ (f ++ codeUnit ':' :: h.dotted))

/-! ## Octets -/

/-- One to three digits. -/
def IsOctet (g : JsString) : Prop := 1 ≤ g.length ∧ g.length ≤ 3 ∧ ∀ c ∈ g, isDigit c

instance : DecidablePred IsOctet := fun g =>
  decidable_of_iff (1 ≤ g.length ∧ g.length ≤ 3 ∧ g.all isDigit) (by rw [IsOctet, List.all_eq_true])

/-- The text is of four groups of digits, with dots between them. -/
structure Octets (text a b c d : JsString) : Prop where
  eq : text = a ++ codeUnit '.' :: (b ++ codeUnit '.' :: (c ++ codeUnit '.' :: d))
  all : ∀ g ∈ [a, b, c, d], IsOctet g

theorem isDigit_iff {c : UInt16} : isDigit c ↔ ∃ k < 10, c = digit k := by
  rw [isDigit, decide_eq_true_iff]
  constructor
  · rintro ⟨hlow, hhigh⟩
    have hlow : 48 ≤ c.toNat := hlow
    have hhigh : c.toNat ≤ 57 := hhigh
    refine ⟨c.toNat - 48, by omega, ?_⟩
    rw [digit, Nat.add_sub_cancel' hlow]
    exact UInt16.ofNat_toNat.symm
  · rintro ⟨k, hk, rfl⟩
    revert k
    decide

theorem value_digit : ∀ k < 10, (digit k).toNat - (codeUnit '0').toNat = k := by decide

theorem matches_octet {g : JsString} : octetPattern.Matches g ↔ IsOctet g := by
  rw [octetPattern, IsOctet]
  constructor
  · rintro ⟨_, _, rfl, ⟨c, rfl, hc⟩, ⟨_, _, rfl, ⟨c', rfl, hc'⟩, ⟨c'', rfl, hc''⟩ | rfl⟩ | rfl⟩
    · exact ⟨by simp, by simp, by simp [hc, hc', hc'']⟩
    · exact ⟨by simp, by simp, by simp [hc, hc']⟩
    · exact ⟨by simp, by simp, by simp [hc]⟩
  · rintro ⟨hpos, hlen, hall⟩
    match g, hpos, hlen, hall with
    | [c], _, _, hall => exact ⟨[c], [], rfl, ⟨c, rfl, hall c (by simp)⟩, Or.inr rfl⟩
    | [c, c'], _, _, hall =>
      exact ⟨[c], [c'], rfl, ⟨c, rfl, hall c (by simp)⟩, Or.inl
        ⟨[c'], [], rfl, ⟨c', rfl, hall c' (by simp)⟩, Or.inr rfl⟩⟩
    | [c, c', c''], _, _, hall =>
      exact ⟨[c], [c', c''], rfl, ⟨c, rfl, hall c (by simp)⟩, Or.inl
        ⟨[c'], [c''], rfl, ⟨c', rfl, hall c' (by simp)⟩, Or.inl ⟨c'', rfl, hall c'' (by simp)⟩⟩⟩

theorem IsOctet.not_mem {g : JsString} {c : UInt16} (hg : IsOctet g) (hc : isDigit c = false) :
    c ∉ g := fun hmem => Bool.false_ne_true (hc.symm.trans (hg.2.2 c hmem))

section
variable {text raw a b c d a' b' c' d' : JsString}

theorem Octets.parts (h : Octets text a b c d) :
    IsOctet a ∧ IsOctet b ∧ IsOctet c ∧ IsOctet d := by
  simpa using h.all

/-- The groups are those of the text. -/
theorem Octets.unique (h : Octets text a b c d) (h' : Octets text a' b' c' d') :
    a = a' ∧ b = b' ∧ c = c' ∧ d = d' := by
  have hcut {u u' r r' : JsString} (hu : IsOctet u) (hu' : IsOctet u')
      (heq : u ++ codeUnit '.' :: r = u' ++ codeUnit '.' :: r') : u = u' ∧ r = r' := by
    have hdot : isDigit (codeUnit '.') = false := by decide
    rcases List.append_eq_append_iff.1 heq with ⟨v, rfl, hv⟩ | ⟨v, rfl, hv⟩
    all_goals
      cases v with
      | nil => exact ⟨by simp, by simpa [eq_comm] using hv⟩
      | cons e v =>
        obtain ⟨rfl, -⟩ := List.cons.inj hv
        first
        | exact absurd (by simp) (hu.not_mem hdot)
        | exact absurd (by simp) (hu'.not_mem hdot)
  obtain ⟨ha, hb, hc, -⟩ := h.parts
  obtain ⟨ha', hb', hc', -⟩ := h'.parts
  obtain ⟨rfl, h₁⟩ := hcut ha ha' (h.eq.symm.trans h'.eq)
  obtain ⟨rfl, h₂⟩ := hcut hb hb' h₁
  obtain ⟨rfl, rfl⟩ := hcut hc hc' h₂
  exact ⟨rfl, rfl, rfl, rfl⟩

/-- Neither a colon nor white space is in such a text. -/
theorem Octets.not_mem (h : Octets text a b c d) {e : UInt16} (he : isDigit e = false)
    (hdot : e ≠ codeUnit '.') : e ∉ text := by
  obtain ⟨ha, hb, hc, hd⟩ := h.parts
  rw [h.eq]
  simp [ha.not_mem he, hb.not_mem he, hc.not_mem he, hd.not_mem he, hdot]

theorem forall₂_ipv4Re {ms : List JsString} (h : List.Forall₂ Pattern.Matches ipv4Re ms) :
    ∃ a b c d, ms = [a, [codeUnit '.'], b, [codeUnit '.'], c, [codeUnit '.'], d] ∧
      Octets ms.flatten a b c d := by
  rcases h with _ | ⟨ha, _ | ⟨hdot, _ | ⟨hb, _ | ⟨hdot', _ | ⟨hc, _ | ⟨hdot'', _ | ⟨hd, ⟨⟩⟩⟩⟩⟩⟩⟩⟩
  obtain ⟨_, rfl, h₁⟩ := hdot
  obtain ⟨_, rfl, h₂⟩ := hdot'
  obtain ⟨_, rfl, h₃⟩ := hdot''
  obtain rfl := of_decide_eq_true h₁
  obtain rfl := of_decide_eq_true h₂
  obtain rfl := of_decide_eq_true h₃
  refine ⟨_, _, _, _, rfl, by simp, ?_⟩
  simpa using ⟨matches_octet.1 ha, matches_octet.1 hb, matches_octet.1 hc, matches_octet.1 hd⟩

theorem captures_octets (h : Octets text a b c d) : Pattern.captures ipv4Re text =
    some [a, [codeUnit '.'], b, [codeUnit '.'], c, [codeUnit '.'], d] := by
  cases hcap : Pattern.captures ipv4Re text with
  | none =>
    have hdot : dotPattern.Matches [codeUnit '.'] := ⟨_, rfl, by decide⟩
    obtain ⟨ha, hb, hc, hd⟩ := h.parts
    refine absurd ?_ (Pattern.captures_none.1 hcap
      [a, [codeUnit '.'], b, [codeUnit '.'], c, [codeUnit '.'], d]
      (.cons (matches_octet.2 ha) (.cons hdot (.cons (matches_octet.2 hb) (.cons hdot
        (.cons (matches_octet.2 hc) (.cons hdot (.cons (matches_octet.2 hd) .nil))))))))
    rw [h.eq]
    simp
  | some ms =>
    obtain ⟨rfl, hms⟩ := Pattern.captures_some hcap
    obtain ⟨a', b', c', d', hms, h'⟩ := forall₂_ipv4Re hms
    obtain ⟨rfl, rfl, rfl, rfl⟩ := h.unique h'
    exact congrArg some hms

theorem captures_other (h : ∀ a b c d, ¬ Octets text a b c d) :
    Pattern.captures ipv4Re text = none := by
  refine Pattern.captures_none.2 fun ms hms htext => ?_
  obtain ⟨a, b, c, d, -, h'⟩ := forall₂_ipv4Re hms
  exact h a b c d (htext ▸ h')

end

/-! ## Decimals -/

def LeadingZero (g : JsString) : Prop := g.head? = some (codeUnit '0') ∧ 1 < g.length

theorem decimal_octet {n : ℕ} (hn : n < 1000) : IsOctet (decimal n) := by
  have hdigit {k : ℕ} (hk : k < 10) : isDigit (digit k) := isDigit_iff.2 ⟨k, hk, rfl⟩
  rw [decimal]
  split_ifs with h₁ h₂
  · exact ⟨by simp, by simp, by simpa using hdigit h₁⟩
  · refine ⟨by simp, by simp, ?_⟩
    simpa using ⟨hdigit (k := n / 10) (by omega), hdigit (k := n % 10) (by omega)⟩
  · refine ⟨by simp, by simp, ?_⟩
    simpa using ⟨hdigit (k := n / 100) (by omega), hdigit (k := n / 10 % 10) (by omega),
      hdigit (k := n % 10) (by omega)⟩

theorem parseInt_decimal {n : ℕ} (hn : n < 1000) : parseInt (decimal n) = n := by
  rw [decimal]
  split_ifs with h₁ h₂
  · simp only [parseInt, List.foldl_cons, List.foldl_nil, value_digit n h₁]
    omega
  · simp only [parseInt, List.foldl_cons, List.foldl_nil, value_digit (n / 10) (by omega),
      value_digit (n % 10) (by omega)]
    omega
  · simp only [parseInt, List.foldl_cons, List.foldl_nil, value_digit (n / 100) (by omega),
      value_digit (n / 10 % 10) (by omega), value_digit (n % 10) (by omega)]
    omega

theorem digit_eq_zero : ∀ k < 10, digit k = codeUnit '0' → k = 0 := by decide

theorem decimal_noLeadingZero {n : ℕ} (hn : n < 1000) : ¬ LeadingZero (decimal n) := by
  rw [decimal]
  rintro ⟨hhead, hlen⟩
  split_ifs at hhead hlen with h₁ h₂
  · exact absurd hlen (by simp)
  · have := digit_eq_zero (n / 10) (by omega) (Option.some.inj hhead)
    omega
  · have := digit_eq_zero (n / 100) (by omega) (Option.some.inj hhead)
    omega

/-- An octet is the decimal of its value, unless it has a leading zero. -/
theorem eq_decimal {g : JsString} (hg : IsOctet g) (hzero : ¬ LeadingZero g) :
    g = decimal (parseInt g) := by
  obtain ⟨hpos, hlen, hall⟩ := hg
  have hlead {k : ℕ} {g : JsString} (h : ¬ LeadingZero (digit k :: g)) (hg : g ≠ []) : k ≠ 0 := by
    rintro rfl
    exact h ⟨rfl, by simpa [Nat.pos_iff_ne_zero] using hg⟩
  match g, hpos, hlen, hall with
  | [e], _, _, hall =>
    obtain ⟨i, hi, rfl⟩ := isDigit_iff.1 (hall e (by simp))
    have hvalue : parseInt [digit i] = i := by
      simp only [parseInt, List.foldl_cons, List.foldl_nil, value_digit i hi]
      omega
    rw [hvalue, decimal, if_pos hi]
  | [e, e'], _, _, hall =>
    obtain ⟨i, hi, rfl⟩ := isDigit_iff.1 (hall e (by simp))
    obtain ⟨j, hj, rfl⟩ := isDigit_iff.1 (hall e' (by simp))
    have hvalue : parseInt [digit i, digit j] = 10 * i + j := by
      simp only [parseInt, List.foldl_cons, List.foldl_nil, value_digit i hi, value_digit j hj]
      omega
    have hi' := hlead hzero (List.cons_ne_nil _ _)
    rw [hvalue, decimal, if_neg (by omega), if_pos (by omega)]
    congr <;> omega
  | [e, e', e''], _, _, hall =>
    obtain ⟨i, hi, rfl⟩ := isDigit_iff.1 (hall e (by simp))
    obtain ⟨j, hj, rfl⟩ := isDigit_iff.1 (hall e' (by simp))
    obtain ⟨k, hk, rfl⟩ := isDigit_iff.1 (hall e'' (by simp))
    have hvalue : parseInt [digit i, digit j, digit k] = 100 * i + 10 * j + k := by
      simp only [parseInt, List.foldl_cons, List.foldl_nil, value_digit i hi, value_digit j hj,
        value_digit k hk]
      omega
    have hi' := hlead hzero (List.cons_ne_nil _ _)
    rw [hvalue, decimal, if_neg (by omega), if_neg (by omega)]
    congr <;> omega

theorem Host.octets (h : Host) :
    Octets h.dotted (decimal h.a) (decimal h.b) (decimal h.c) (decimal h.d) := by
  refine ⟨rfl, ?_⟩
  simpa using ⟨decimal_octet (by omega), decimal_octet (by omega), decimal_octet (by omega),
    decimal_octet (by omega)⟩

/-- Four groups of digits are an IPv4 address when they are numbers up to 255 in decimal. -/
theorem Octets.isIpv4Text_iff {text a b c d : JsString} (h : Octets text a b c d) :
    IsIpv4Text text ↔ ∀ g ∈ [a, b, c, d], parseInt g ≤ 255 ∧ ¬ LeadingZero g := by
  constructor
  · rintro ⟨host, rfl⟩
    obtain ⟨rfl, rfl, rfl, rfl⟩ := h.unique host.octets
    have hvalid (n : Fin 256) : parseInt (decimal n) ≤ 255 ∧ ¬ LeadingZero (decimal n) :=
      ⟨(parseInt_decimal (by omega)).le.trans (by omega), decimal_noLeadingZero (by omega)⟩
    simpa using ⟨hvalid host.a, hvalid host.b, hvalid host.c, hvalid host.d⟩
  · intro hall
    have hall' : ∀ g ∈ [a, b, c, d], parseInt g < 256 ∧ g = decimal (parseInt g) := fun g hg =>
      ⟨Nat.lt_succ_of_le (hall g hg).1, eq_decimal (h.all g hg) (hall g hg).2⟩
    simp only [List.forall_mem_cons] at hall'
    obtain ⟨⟨ha, hda⟩, ⟨hb, hdb⟩, ⟨hc, hdc⟩, ⟨hd, hdd⟩, -⟩ := hall'
    refine ⟨⟨⟨_, ha⟩, ⟨_, hb⟩, ⟨_, hc⟩, ⟨_, hd⟩⟩, ?_⟩
    rw [Host.dotted, ← hda, ← hdb, ← hdc, ← hdd, ← h.eq]

/-! ## Valid addresses -/

theorem mem_intercalate {c : UInt16} {groups : List JsString} (h : 2 ≤ groups.length) :
    c ∈ [c].intercalate groups := by
  match groups, h with
  | g :: g' :: groups, _ => simp [List.intercalate]

/-- There is a colon in an IPv6 address. -/
theorem IsIpv6Text.colon_mem {text : JsString} (h : IsIpv6Text text) : codeUnit ':' ∈ text := by
  rcases h with ⟨groups, hgroups, rfl⟩ | ⟨left, right, n, k, -, -, -, rfl⟩
  · refine mem_intercalate ?_
    rcases hgroups with ⟨hlen, -⟩ | ⟨init, v4, k, rfl, ⟨hlen, -⟩, -, hk⟩
    · omega
    · rw [List.length_append, List.length_singleton]
      omega
  · simp

theorem Denotes.valid {h : Host} {x : JsString} (hx : Denotes h x) :
    IsIpv4Text x ∨ IsIpv6Text x := by
  cases hx with
  | dotted => exact Or.inl ⟨h, rfl⟩
  | @mapped f hlen hf =>
    have hhex : ∀ c ∈ f, isHexDigit c := fun c hc => by
      rcases hf c hc with rfl | rfl <;> decide
    refine Or.inr (Or.inr ⟨[], [f, h.dotted], 0, 3, ⟨rfl, nofun⟩, Or.inr
      ⟨[f], h.dotted, 1, rfl, ⟨rfl, ?_⟩, ⟨h, rfl⟩, rfl⟩, by omega, ?_⟩)
    · simpa [hlen] using hhex
    · simp [List.intercalate, of]

section
variable {raw a b c d : JsString}

theorem mem_dropWhile_iff {c : UInt16} {s : JsString} (hc : isSpace c = false) :
    c ∈ s.dropWhile isSpace ↔ c ∈ s := by
  refine ⟨fun h => (List.dropWhile_sublist _).mem h, fun h => ?_⟩
  rw [← List.takeWhile_append_dropWhile (p := isSpace) (l := s), List.mem_append] at h
  exact h.resolve_left fun h => Bool.false_ne_true (hc.symm.trans (List.mem_takeWhile_imp h))

theorem mem_trim_iff {c : UInt16} {s : JsString} (hc : isSpace c = false) :
    c ∈ trim s ↔ c ∈ s := by
  rw [trim, List.rdropWhile, List.mem_reverse, mem_dropWhile_iff hc, List.mem_reverse,
    mem_dropWhile_iff hc]

theorem isSpace_digit {c : UInt16} (hc : isDigit c) : isSpace c = false := by
  obtain ⟨k, hk, rfl⟩ := isDigit_iff.1 hc
  revert k
  decide

theorem trim_of_all {s : JsString} (h : ∀ c ∈ s, isSpace c = false) : trim s = s := by
  refine trim_eq_self (Option.any_eq_false _ _ |>.2 fun c hc => ?_)
    (Option.any_eq_false _ _ |>.2 fun c hc => ?_)
  · simpa using h c (List.mem_of_head? hc)
  · simpa using h c (List.mem_of_getLast? hc)

theorem Octets.isSpace {text : JsString} (h : Octets text a b c d) :
    ∀ e ∈ text, isSpace e = false := by
  intro e he
  cases hdigit : isDigit e with
  | true => exact isSpace_digit hdigit
  | false =>
    by_cases hdot : e = codeUnit '.'
    · subst hdot
      decide
    · exact absurd he (h.not_mem hdigit hdot)

theorem Octets.no_colon {text : JsString} (h : Octets text a b c d) : codeUnit ':' ∉ text :=
  h.not_mem (by decide) (by decide)

/-- `maskIpv4`, of four groups of digits. -/
theorem maskIpv4_octets (h : Octets (trim raw) a b c d) : maskIpv4 (some raw) =
    if [a, b, c].any fun o => parseInt o > 255 then none
    else some (a ++ codeUnit '.' :: (b ++ codeUnit '.' :: (c ++ of ".0"))) := by
  have hraw : raw ≠ [] := by
    rintro rfl
    exact absurd h.eq (by simp [trim])
  simp [maskIpv4, Option.filter, hraw, captures_octets h]

theorem maskIpv4_other (h : ∀ a b c d, ¬ Octets (trim raw) a b c d) :
    maskIpv4 (some raw) = none := by
  by_cases hraw : raw = [] <;> simp [maskIpv4, Option.filter, hraw, captures_other h]

/-- What is not masked is stored where there is a colon in it. -/
theorem maskIp_unmasked (h : maskIpv4 (some raw) = none) :
    maskIp (some raw) = if codeUnit ':' ∈ raw then some (trim raw) else none := by
  by_cases hraw : raw = []
  · subst hraw
    rfl
  · simp [maskIp, isIpv4, isIpv6, Option.filter, hraw, h]

theorem maskIp_masked {masked : JsString} (h : maskIpv4 (some raw) = some masked) :
    maskIp (some raw) = some masked := by
  have hraw : raw ≠ [] := by
    rintro rfl
    cases h
  simp [maskIp, isIpv4, Option.filter, hraw, h]

end

/-- Where the first three groups pass their check, the text is an IPv4 address. -/
def DottedValid (text : JsString) : Prop :=
  ∀ a b c d, Octets text a b c d → (∀ g ∈ [a, b, c], parseInt g ≤ 255) →
    parseInt d ≤ 255 ∧ ∀ g ∈ [a, b, c, d], ¬ LeadingZero g

/-- What `maskIp` stores is a valid address, where dotted texts and texts with a colon are. -/
theorem maskIp_valid_iff (raw : JsString) :
    (maskIp (some raw) ≠ none → IsIpv4Text (trim raw) ∨ IsIpv6Text (trim raw)) ↔
      DottedValid (trim raw) ∧ (codeUnit ':' ∈ raw → IsIpv6Text (trim raw)) := by
  have hcolon : codeUnit ':' ∈ trim raw ↔ codeUnit ':' ∈ raw := mem_trim_iff (by decide)
  by_cases hoct : ∃ a b c d, Octets (trim raw) a b c d
  · obtain ⟨a, b, c, d, h⟩ := hoct
    have hraw : codeUnit ':' ∉ raw := fun hmem => h.no_colon (hcolon.2 hmem)
    have hv6 : ¬ IsIpv6Text (trim raw) := fun hv6 => h.no_colon hv6.colon_mem
    have hmask := maskIpv4_octets h
    split_ifs at hmask with hany
    · rw [maskIp_unmasked hmask, if_neg hraw]
      refine iff_of_true (absurd rfl) ⟨fun a' b' c' d' h' hall => ?_, fun hmem => absurd hmem hraw⟩
      obtain ⟨rfl, rfl, rfl, rfl⟩ := h.unique h'
      obtain ⟨g, hg, hbig⟩ := List.any_eq_true.1 hany
      exact absurd (hall g hg) (Nat.not_le.2 (of_decide_eq_true hbig))
    · have hsmall : ∀ g ∈ [a, b, c], parseInt g ≤ 255 := fun g hg => by
        by_contra hbig
        exact hany (List.any_eq_true.2 ⟨g, hg, decide_eq_true (Nat.not_le.1 hbig)⟩)
      rw [maskIp_masked hmask, forall_prop_of_true (Option.some_ne_none _), or_iff_left hv6,
        h.isIpv4Text_iff]
      constructor
      · refine fun hall => ⟨fun a' b' c' d' h' _ => ?_, fun hmem => absurd hmem hraw⟩
        obtain ⟨rfl, rfl, rfl, rfl⟩ := h.unique h'
        exact ⟨(hall d (by simp)).1, fun g hg => (hall g hg).2⟩
      · rintro ⟨hvalid, -⟩ g hg
        obtain ⟨hd, hzero⟩ := hvalid a b c d h hsmall
        refine ⟨?_, hzero g hg⟩
        rcases List.mem_append.1 (show g ∈ [a, b, c] ++ [d] from hg) with hg | hg
        · exact hsmall g hg
        · exact List.mem_singleton.1 hg ▸ hd
  · simp only [not_exists] at hoct
    have hv4 : ¬ IsIpv4Text (trim raw) := by
      rintro ⟨host, heq⟩
      exact hoct _ _ _ _ (heq ▸ host.octets)
    rw [maskIp_unmasked (maskIpv4_other hoct), or_iff_right hv4]
    constructor
    · refine fun h => ⟨fun a b c d h' => absurd h' (hoct a b c d), fun hmem => h ?_⟩
      rw [if_pos hmem]
      exact Option.some_ne_none _
    · rintro ⟨-, h⟩ hsome
      exact h (by_contra fun hmem => hsome (if_neg hmem))

/-! ## Stored addresses -/

theorem maskIp_dotted (h : Host) : maskIp (some h.dotted) = some (decimal h.a ++ codeUnit '.' ::
    (decimal h.b ++ codeUnit '.' :: (decimal h.c ++ of ".0"))) := by
  have hoct : Octets (trim h.dotted) _ _ _ _ := (trim_of_all h.octets.isSpace).symm ▸ h.octets
  refine maskIp_masked ((maskIpv4_octets hoct).trans (if_neg ?_))
  have hsmall (n : Fin 256) : parseInt (decimal n) ≤ 255 :=
    (parseInt_decimal (by omega)).le.trans (by omega)
  simpa using ⟨hsmall h.a, hsmall h.b, hsmall h.c⟩

theorem maskIp_mapped {h : Host} {f : JsString}
    (hf : ∀ c ∈ f, c = codeUnit 'f' ∨ c = codeUnit 'F') :
    maskIp (some (of "::" ++ (f ++ codeUnit ':' :: h.dotted))) =
      some (of "::" ++ (f ++ codeUnit ':' :: h.dotted)) := by
  have hspace : ∀ c ∈ of "::" ++ (f ++ codeUnit ':' :: h.dotted), isSpace c = false := by
    simp only [List.mem_append, List.mem_cons]
    rintro c (hc | hc | rfl | hc)
    · have hcolons : (of "::").all (isSpace · = false) := by decide
      exact of_decide_eq_true (List.all_eq_true.1 hcolons c hc)
    · rcases hf c hc with rfl | rfl <;> decide
    · decide
    · exact h.octets.isSpace c hc
  have htrim := trim_of_all hspace
  rw [maskIp_unmasked, if_pos (by simp), htrim]
  refine maskIpv4_other fun a b c d hoct => hoct.no_colon ?_
  rw [htrim]
  simp

/-- **An address is stored only if it is valid just where dotted texts and texts with a colon are
    valid; and two addresses of a network are stored as one just where both are dotted, or they are
    the same.** -/
theorem maskIp_iff (raw : JsString) (input input' : CreateAuditLogInput) (x y : JsString)
    (h h' : Host) (hx : input.ipAddress = some x) (hy : input'.ipAddress = some y)
    (hnet : h.SameNetwork h') (hdx : Denotes h x) (hdy : Denotes h' y) :
    ((maskIp (some raw) ≠ none → IsIpv4Text (trim raw) ∨ IsIpv6Text (trim raw)) ↔
      DottedValid (trim raw) ∧ (codeUnit ':' ∈ raw → IsIpv6Text (trim raw))) ∧
    ((createAuditLog input).1.ipAddress = (createAuditLog input').1.ipAddress ↔
      codeUnit ':' ∉ x ∧ codeUnit ':' ∉ y ∨ x = y) := by
  refine ⟨maskIp_valid_iff raw, ?_⟩
  obtain ⟨ha, hb, hc⟩ := hnet
  have hmasked (h : Host) : codeUnit ':' ∉ decimal h.a ++ codeUnit '.' ::
      (decimal h.b ++ codeUnit '.' :: (decimal h.c ++ of ".0")) := by
    have hzero := (Host.mk h.a h.b h.c 0).octets.no_colon
    exact hzero
  rw [createAuditLog, createAuditLog]
  dsimp only
  rw [hx, hy]
  cases hdx with
  | dotted =>
    cases hdy with
    | dotted =>
      rw [maskIp_dotted, maskIp_dotted, ha, hb, hc]
      exact iff_of_true rfl (Or.inl ⟨h.octets.no_colon, h'.octets.no_colon⟩)
    | mapped _ hf =>
      rw [maskIp_dotted, maskIp_mapped hf, Option.some_inj]
      refine iff_of_false (fun heq => hmasked h (heq ▸ by simp)) ?_
      rintro (⟨-, hy⟩ | heq)
      · exact hy (by simp)
      · exact h.octets.no_colon (heq ▸ by simp)
  | mapped _ hf =>
    cases hdy with
    | dotted =>
      rw [maskIp_dotted, maskIp_mapped hf, Option.some_inj]
      refine iff_of_false (fun heq => hmasked h' (heq ▸ by simp)) ?_
      rintro (⟨hx, -⟩ | heq)
      · exact hx (by simp)
      · exact h'.octets.no_colon (heq ▸ by simp)
    | mapped _ hf' =>
      rw [maskIp_mapped hf, maskIp_mapped hf', Option.some_inj, iff_or_self]
      rintro ⟨hx, -⟩
      exact absurd (by simp) hx

theorem maskIp_iff_neighbours :
    (createAuditLog { action := of "LOGIN", ipAddress := some (of "192.168.1.5") }).1.ipAddress =
      (createAuditLog { action := of "LOGIN", ipAddress := some (of "192.168.1.7") }).1.ipAddress :=
  (maskIp_iff (of "192.168.1.5") _ _ _ _ ⟨192, 168, 1, 5⟩ ⟨192, 168, 1, 7⟩ rfl rfl ⟨rfl, rfl, rfl⟩
    .dotted .dotted).2.2 (Or.inl ⟨by decide, by decide⟩)

/-- A network's hosts are told apart where one address is mapped, and 1.2.3.999 is stored. -/
theorem maskIp_mapped_apart :
    (¬ ∀ raw, maskIp (some raw) ≠ none → IsIpv4Text (trim raw) ∨ IsIpv6Text (trim raw)) ∧
    ¬ ∀ (input input' : CreateAuditLogInput) (x y : JsString) (h h' : Host),
      input.ipAddress = some x → input'.ipAddress = some y → h.SameNetwork h' → Denotes h x →
      Denotes h' y → (createAuditLog input).1.ipAddress = (createAuditLog input').1.ipAddress := by
  constructor
  · intro hvalid
    have hoct : Octets (of "1.2.3.999") (of "1") (of "2") (of "3") (of "999") :=
      ⟨by decide, by decide⟩
    have htrim : trim (of "1.2.3.999") = of "1.2.3.999" := trim_of_all hoct.isSpace
    have hv := hvalid (of "1.2.3.999") (by decide)
    rw [htrim] at hv
    rcases hv with hv4 | hv6
    · exact absurd (hoct.isIpv4Text_iff.1 hv4 (of "999") (by simp)).1 (by decide)
    · exact hoct.no_colon hv6.colon_mem
  · intro hsame
    have hffff : (of "ffff").all (· = codeUnit 'f') := by decide
    have hmapped := Denotes.mapped (h := ⟨192, 168, 1, 5⟩) (f := of "ffff") (by decide) fun c hc =>
      Or.inl (of_decide_eq_true (List.all_eq_true.1 hffff c hc))
    have hstored := hsame { action := of "x", ipAddress := some (Host.mk 192 168 1 5).dotted }
      { action := of "x", ipAddress := some _ } _ _ _ _ rfl rfl ⟨rfl, rfl, rfl⟩ .dotted hmapped
    exact absurd hstored (by decide)

end Audit
