import Mathlib.Data.List.TakeWhile
import WireguardGateway.Crossplane.Composition
import WireguardGateway.Lib.JsonStruct
import WireguardGateway.Lib.Sed

/-!
# `keyfetch.sh`: how the VM reads its bundle

The operator writes a member's bundle as a JSON object of strings (`payloadFromRecord`); the boot
script reads the fields back with one greedy `sed` pattern per field, over the whole document, and
finds the secret by joining the `secret-id` metadata with its own name.

Between quotes the document alternates between names, colons, values and commas, and the pattern
needs a colon after what it takes for a name. So it can only match at a field, and the names being
distinct, only at its own.

Results:
* `splitOn_document`: the document cut at its quotes;
* `fieldPattern_unique`: what the pattern captures is the value of the field;
* **`bundle_read_back`**: every field is read back, and the secret id is the name that the
  composition gives the member's secret.
-/

namespace WireguardGateway.Vm

open Lib Lib.Sed Gcp
open Controller (rosterMembers)
open Crossplane (XGatewayGCPSpec Observed Machine machine machineMetadata render)

/-! ## The operator's side -/

/-- `bundlePayload`. -/
structure BundlePayload where
  privateKey : String
  address : String
  slot : String
  peerPublicKey : String
  peerAllowedIPs : String
  deriving DecidableEq, Repr

/-- `payloadFromRecord`. -/
def payloadFromRecord (rec : Record) : BundlePayload where
  privateKey := rec.privateKey
  address := rec.tunnelAddress ++ "/" ++ toString rec.subnetPrefix
  slot := toString rec.slot
  peerPublicKey := rec.peerPublicKey
  peerAllowedIPs := rec.peerAllowedIPs

/-- The fields in the order of the struct. -/
def BundlePayload.fields (p : BundlePayload) : List (String × String) :=
  [("privateKey", p.privateKey), ("address", p.address), ("slot", p.slot),
    ("peerPublicKey", p.peerPublicKey), ("peerAllowedIPs", p.peerAllowedIPs)]

/-- The bundle `secretFromRecord` stores. -/
def bundleOf (rec : Record) : String := (Json.ofStringMap (payloadFromRecord rec).fields).marshal

/-! ## The script's side -/

/-- `[[:space:]]`. -/
def isBlank (c : Char) : Bool := [' ', '\t', '\n', '\x0b', '\x0c', '\r'].contains c

def literal (text : List Char) : List Atom := text.map fun c => .char (· == c)

/-- The pattern of `extract_json_string`:
`.*"<field>"[[:space:]]*:[[:space:]]*"\([^"]*\)".*`. -/
def fieldPattern (field : List Char) : List Atom :=
  .star (fun _ => true) :: (literal ('"' :: field ++ ['"']) ++
    [.star isBlank, .char (· == ':'), .star isBlank, .char (· == '"'), .group (· != '"'),
      .char (· == '"'), .star fun _ => true])

/-- `$( … )` joins the lines of the output and drops the line ends at its end. -/
def commandSubstitution (lines : List (List Char)) : String :=
  String.ofList ((['\n'].intercalate lines).reverse.dropWhile (· == '\n')).reverse

/-- `extract_json_string`, in a command substitution. -/
def extractJsonString (field document : String) : String :=
  commandSubstitution (printed (fieldPattern field.toList) document.toList)

/-- `secret_id="${secret_id_base}-${own_name}"`. -/
def secretID (secretIDBase ownName : String) : String := secretIDBase ++ "-" ++ ownName

/-- `fetch_metadata_attr`; a missing attribute is an empty one. -/
def fetchMetadataAttr (m : Machine) (attr : String) : String := (m.metadata.lookup attr).getD ""

/-! ## The document, cut at its quotes -/

/-- A character that `json.Marshal` writes as it is, other than a colon. -/
def Plain (s : String) : Prop := ∀ c ∈ s.toList, Json.escape c = [c] ∧ c ≠ ':'

instance (s : String) : Decidable (Plain s) :=
  List.decidableBAll _ s.toList

/-- What stands between the quotes of the fields, and what follows the last one. -/
def pieces : List (String × String) → List (List Char)
  | [] => []
  | [kv] => [kv.1.toList, [':'], kv.2.toList, ['}']]
  | kv :: f :: fs => kv.1.toList :: [':'] :: kv.2.toList :: [','] :: pieces (f :: fs)

theorem pieces_cons (kv : String × String) (fs : List (String × String)) :
    ∃ rest, pieces (kv :: fs) = kv.1.toList :: rest := by
  cases fs with
  | nil | cons f fs => exact ⟨_, rfl⟩

theorem splitOn_append_quote (xs rest : List Char) :
    (xs ++ '"' :: rest).splitOn '"' = xs.splitOn '"' ++ rest.splitOn '"' :=
  List.splitOnP_append_cons xs rest rfl

theorem splitOn_eq_singleton {sep : Char} {xs : List Char} (h : sep ∉ xs) :
    xs.splitOn sep = [xs] := by
  have hcut : ([sep].intercalate [xs]).splitOn sep = [xs] :=
    List.splitOn_intercalate sep (by simpa using h) (by simp)
  simpa using hcut

variable {s field value : String} {rest cs : List Char} {fs : List (String × String)}
  {captures : List (List Char)} {c : Char}

theorem Plain.quoteless (h : Plain s) : '"' ∉ s.toList := fun hc =>
  absurd (h '"' hc).1 (by decide)

theorem Plain.colonless (h : Plain s) : ':' ∉ s.toList := fun hc => (h ':' hc).2 rfl

theorem Plain.newlineless (h : Plain s) : '\n' ∉ s.toList := fun hc =>
  absurd (h '\n' hc).1 (by decide)

theorem stringChars_plain (h : Plain s) :
    Json.stringChars s = '"' :: (s.toList ++ ['"']) := by
  have hescape : s.toList.flatMap Json.escape = s.toList := by
    rw [List.flatMap_congr fun c hc => (h c hc).1]
    simp
  rw [Json.stringChars, hescape]

/-- One field with what precedes it, cut at its quotes. -/
theorem splitOn_field {pre : List Char} {k v : String} (hpre : '"' ∉ pre) (hk : Plain k)
    (hv : Plain v) :
    (pre ++ (Json.stringChars k ++ ':' :: (Json.stringChars v ++ rest))).splitOn '"' =
      pre :: k.toList :: [':'] :: v.toList :: rest.splitOn '"' := by
  have hcolon : '"' ∉ [':'] := by decide
  have htext : pre ++ (Json.stringChars k ++ ':' :: (Json.stringChars v ++ rest)) =
      pre ++ '"' :: (k.toList ++ '"' :: ([':'] ++ '"' :: (v.toList ++ '"' :: rest))) := by
    rw [stringChars_plain hk, stringChars_plain hv]
    simp only [List.append_assoc, List.cons_append, List.nil_append]
  rw [htext, splitOn_append_quote, splitOn_append_quote, splitOn_append_quote, splitOn_append_quote,
    splitOn_eq_singleton hpre, splitOn_eq_singleton hk.quoteless, splitOn_eq_singleton hcolon,
    splitOn_eq_singleton hv.quoteless]
  rfl

/-- All names and values are plain. -/
def PlainFields (fs : List (String × String)) : Prop := ∀ kv ∈ fs, Plain kv.1 ∧ Plain kv.2

theorem splitOn_fields : ∀ (fs : List (String × String)) (pre : List Char), fs ≠ [] →
    '"' ∉ pre → PlainFields fs →
    (pre ++ (Json.fieldsChars (fs.map fun kv => (kv.1, .str kv.2)) ++ ['}'])).splitOn '"' =
      pre :: pieces fs
  | [], _, h, _, _ => absurd rfl h
  | [kv], pre, _, hpre, hfs => by
    obtain ⟨hk, hv⟩ := hfs kv (by simp)
    have hend : (['}'] : List Char).splitOn '"' = [['}']] := splitOn_eq_singleton (by decide)
    simp only [List.map_cons, List.map_nil, Json.fieldsChars, Json.chars, List.append_assoc,
      List.cons_append]
    rw [splitOn_field hpre hk hv, hend]
    rfl
  | kv :: f :: fs, pre, _, hpre, hfs => by
    obtain ⟨hk, hv⟩ := hfs kv (by simp)
    have hrest := splitOn_fields (f :: fs) [','] (by simp) (by decide)
      fun kv h => hfs kv (List.mem_cons_of_mem _ h)
    simp only [List.map_cons, Json.fieldsChars, Json.chars, List.append_assoc, List.cons_append]
      at hrest ⊢
    rw [splitOn_field hpre hk hv]
    exact congrArg (pre :: kv.1.toList :: [':'] :: kv.2.toList :: ·) hrest

/-- The document of a list of fields. -/
def document (fs : List (String × String)) : List Char := (Json.ofStringMap fs).chars

theorem splitOn_document (hne : fs ≠ []) (hfs : PlainFields fs) :
    (document fs).splitOn '"' = ['{'] :: pieces fs :=
  splitOn_fields fs ['{'] hne (by decide) hfs

/-- The first three pieces with a colon in the second, or three later ones. -/
theorem infix_pieces {kv : String × String} {sep a b c : List Char} {rest : List (List Char)}
    (hv : Plain kv.2) (hsep : ':' ∉ sep)
    (h : [a, b, c] <:+: kv.1.toList :: [':'] :: kv.2.toList :: sep :: rest) (hb : ':' ∈ b) :
    (a = kv.1.toList ∧ c = kv.2.toList) ∨ [a, b, c] <+: sep :: rest ∨ [a, b, c] <:+: rest := by
  rw [List.infix_cons_iff, List.infix_cons_iff, List.infix_cons_iff, List.infix_cons_iff] at h
  obtain h | h | h | h := h
  · simp only [List.cons_prefix_cons] at h
    exact .inl ⟨h.1, h.2.2.1⟩
  · -- colon, value, separator
    simp only [List.cons_prefix_cons] at h
    exact absurd (h.2.1 ▸ hb) hv.colonless
  · -- value, separator, and what follows
    simp only [List.cons_prefix_cons] at h
    exact absurd (h.2.1 ▸ hb) hsep
  · exact .inr h

/-- Three successive pieces with a colon in the second are a field. -/
theorem field_of_infix : ∀ {fs : List (String × String)} {a b c : List Char}, PlainFields fs →
    [a, b, c] <:+: pieces fs → ':' ∈ b → ∃ kv ∈ fs, a = kv.1.toList ∧ c = kv.2.toList
  | [], a, b, c, _, h, _ => by
    cases List.infix_nil.mp h
  | [kv], a, b, c, hfs, h, hb => by
    obtain heq | h | h := infix_pieces (hfs kv (by simp)).2 (by decide) h hb
    · exact ⟨kv, by simp, heq⟩
    · simp [List.cons_prefix_cons] at h
    · cases List.infix_nil.mp h
  | kv :: f :: fs, a, b, c, hfs, h, hb => by
    have htail : PlainFields (f :: fs) := fun kv h => hfs kv (List.mem_cons_of_mem _ h)
    obtain heq | h | h := infix_pieces (hfs kv (by simp)).2 (by decide) h hb
    · exact ⟨kv, by simp, heq⟩
    · -- comma, name, colon
      obtain ⟨rest, hrest⟩ := pieces_cons f fs
      rw [hrest] at h
      simp only [List.cons_prefix_cons] at h
      exact absurd (h.2.1 ▸ hb) (htail f (by simp)).1.colonless
    · obtain ⟨kv', hmem, heq⟩ := field_of_infix htail h hb
      exact ⟨kv', List.mem_cons_of_mem _ hmem, heq⟩

/-- The same with the opening brace in front. -/
theorem field_of_infix_document {fs : List (String × String)} {a b c : List Char}
    (hfs : PlainFields fs) (h : [a, b, c] <:+: ['{'] :: pieces fs) (hb : ':' ∈ b) :
    ∃ kv ∈ fs, a = kv.1.toList ∧ c = kv.2.toList := by
  obtain h | h := List.infix_cons_iff.mp h
  · cases fs with
    | nil => simp [pieces, List.cons_prefix_cons] at h
    | cons kv fs =>
      obtain ⟨rest, hrest⟩ := pieces_cons kv fs
      rw [hrest] at h
      simp only [List.cons_prefix_cons] at h
      exact absurd (h.2.1 ▸ hb) (hfs kv (by simp)).1.colonless
  · exact field_of_infix hfs h hb

/-! ## What the pattern captures -/

theorem matches_literal {text : List Char} {atoms : List Atom}
    (h : Matches atoms cs captures rest) :
    Matches (literal text ++ atoms) (text ++ cs) captures rest := by
  induction text with
  | nil => exact h
  | cons c text ih => exact .char (by simp) ih

theorem matches_of_literal : ∀ (text : List Char) {cs rest : List Char} {atoms : List Atom}
    {captures : List (List Char)}, Matches (literal text ++ atoms) cs captures rest →
    ∃ cs', cs = text ++ cs' ∧ Matches atoms cs' captures rest
  | [], cs, _, _, _, h => ⟨cs, rfl, h⟩
  | c :: text, _, _, _, _, h => by
    rw [literal, List.map_cons, List.cons_append] at h
    cases h with
    | char hc htail =>
      obtain ⟨cs', rfl, hrest⟩ := matches_of_literal text htail
      exact ⟨cs', by rw [beq_iff_eq.mp hc, List.cons_append], hrest⟩

/-- A match of the pattern: the name in quotes, blanks around a colon, the capture in quotes. -/
theorem matches_fieldPattern {field : List Char}
    (h : Matches (fieldPattern field) cs captures rest) :
    ∃ pre before after value post, captures = [value] ∧ '"' ∉ value ∧ '"' ∉ before ∧ '"' ∉ after ∧
      cs = pre ++ '"' :: (field ++ '"' ::
        ((before ++ ':' :: after) ++ '"' :: (value ++ '"' :: post))) := by
  have hblank : ∀ text : List Char, (∀ c ∈ text, isBlank c = true) → '"' ∉ text := fun text h hq =>
    absurd (h '"' hq) (by decide)
  rw [fieldPattern] at h
  cases h with
  | @star _ pre _ _ _ _ _ h₁ =>
  obtain ⟨cs₁, rfl, h₂⟩ := matches_of_literal _ h₁
  cases h₂ with
  | @star _ before _ _ _ _ hbefore h₃ =>
  cases h₃ with
  | @char _ colon _ cs₂ _ _ hcolon h₄ =>
  cases h₄ with
  | @star _ after _ _ _ _ hafter h₅ =>
  cases h₅ with
  | @char _ opening _ cs₃ _ _ hopening h₆ =>
  cases h₆ with
  | @group _ value _ _ _ _ hvalue h₇ =>
  cases h₇ with
  | @char _ closing _ cs₄ _ _ hclosing h₈ =>
  cases h₈ with
  | @star _ post _ _ _ _ _ h₉ =>
  cases h₉ with
  | nil =>
    obtain rfl := beq_iff_eq.mp hcolon
    obtain rfl := beq_iff_eq.mp hopening
    obtain rfl := beq_iff_eq.mp hclosing
    refine ⟨pre, before, after, value, post ++ rest, rfl, fun hq => ?_, hblank _ hbefore,
      hblank _ hafter, ?_⟩
    · exact absurd (hvalue '"' hq) (by decide)
    · simp only [List.append_assoc, List.cons_append, List.nil_append]

/-- **The pattern captures the value of its field.** -/
theorem fieldPattern_unique (hfs : PlainFields fs) (hfield : Plain field)
    (h : Matches (fieldPattern field.toList) (document fs) captures rest) :
    ∃ value, (field, value) ∈ fs ∧ captures = [value.toList] := by
  obtain ⟨pre, before, after, value, post, rfl, hvalue, hbefore, hafter, hcs⟩ :=
    matches_fieldPattern h
  have hmid : '"' ∉ before ++ ':' :: after := by
    simp only [List.mem_append, List.mem_cons, not_or]
    exact ⟨hbefore, by decide, hafter⟩
  -- cut both sides at the quotes
  have hcut := congrArg (List.splitOn '"') hcs
  rw [splitOn_append_quote, splitOn_append_quote, splitOn_append_quote, splitOn_append_quote,
    splitOn_eq_singleton hfield.quoteless, splitOn_eq_singleton hmid,
    splitOn_eq_singleton hvalue] at hcut
  cases fs with
  | nil =>
    have hnil : (document []).splitOn '"' = [['{', '}']] := by decide
    have hlength := congrArg List.length (hnil.symm.trans hcut)
    simp at hlength
    omega
  | cons f fs =>
    rw [splitOn_document (by simp) hfs] at hcut
    have hinfix : [field.toList, before ++ ':' :: after, value] <:+: ['{'] :: pieces (f :: fs) := by
      rw [hcut]
      exact ⟨pre.splitOn '"', post.splitOn '"', by simp⟩
    obtain ⟨kv, hmem, hname, hval⟩ := field_of_infix_document hfs hinfix (by simp)
    obtain rfl := String.toList_inj.mp hname
    exact ⟨kv.2, hmem, by rw [hval]⟩

/-- A field stands somewhere in the document. -/
theorem fieldsChars_mem : ∀ {fs : List (String × String)} {kv : String × String}, kv ∈ fs →
    ∃ pre post, Json.fieldsChars (fs.map fun kv => (kv.1, .str kv.2)) =
      pre ++ (Json.stringChars kv.1 ++ ':' :: (Json.stringChars kv.2 ++ post))
  | [kv], kv', h => by
    obtain rfl := List.mem_singleton.mp h
    exact ⟨[], [], by simp [Json.fieldsChars, Json.chars]⟩
  | kv :: f :: fs, kv', h => by
    obtain rfl | h := List.mem_cons.mp h
    · refine ⟨[], ',' :: Json.fieldsChars ((f :: fs).map fun kv => (kv.1, .str kv.2)), ?_⟩
      simp only [List.map_cons, Json.fieldsChars, Json.chars, List.nil_append]
    · obtain ⟨pre, post, hrest⟩ := fieldsChars_mem h
      refine ⟨Json.stringChars kv.1 ++ ':' :: (Json.stringChars kv.2 ++ ',' :: pre), post, ?_⟩
      simp only [List.map_cons, Json.fieldsChars, Json.chars, List.append_assoc,
        List.cons_append] at hrest ⊢
      rw [hrest]

/-- The pattern matches the document to its end. -/
theorem matches_document (hfs : PlainFields fs) (h : (field, value) ∈ fs) :
    ∃ captures, Matches (fieldPattern field.toList) (document fs) captures [] := by
  obtain ⟨hk, hv⟩ := hfs _ h
  obtain ⟨pre, post, hdoc⟩ := fieldsChars_mem h
  have hvalue : ∀ c ∈ value.toList, (c != '"') = true := fun c hc =>
    bne_iff_ne.mpr fun heq => hv.quoteless (heq ▸ hc)
  have hend : Matches [.star fun _ => true] (post ++ ['}']) [] [] := by
    rw [← List.append_nil (post ++ ['}'])]
    exact .star (fun _ _ => rfl) (.nil [])
  have hquoted : Matches [.star isBlank, .char (· == ':'), .star isBlank, .char (· == '"'),
      .group (· != '"'), .char (· == '"'), .star fun _ => true]
      ([] ++ ':' :: ([] ++ '"' :: (value.toList ++ '"' :: (post ++ ['}'])))) [value.toList] [] :=
    .star (fun _ h => nomatch h) (.char rfl (.star (fun _ h => nomatch h)
      (.char rfl (.group hvalue (.char rfl hend)))))
  have hall : Matches (fieldPattern field.toList)
      (('{' :: pre) ++ (('"' :: field.toList ++ ['"']) ++
        ([] ++ ':' :: ([] ++ '"' :: (value.toList ++ '"' :: (post ++ ['}']))))))
      [value.toList] [] :=
    .star (fun _ _ => rfl) (matches_literal hquoted)
  refine ⟨[value.toList], ?_⟩
  have htext : document fs = ('{' :: pre) ++ (('"' :: field.toList ++ ['"']) ++
      ([] ++ ':' :: ([] ++ '"' :: (value.toList ++ '"' :: (post ++ ['}']))))) := by
    rw [document, Json.ofStringMap, Json.chars, hdoc, stringChars_plain hk, stringChars_plain hv]
    simp only [List.append_assoc, List.cons_append, List.nil_append]
  rw [htext]
  exact hall

theorem document_newlineless (hfs : PlainFields fs) :
    '\n' ∉ document fs := by
  have hstring : ∀ s : String, Plain s → '\n' ∉ Json.stringChars s := fun s hs => by
    simp [stringChars_plain hs, hs.newlineless]
  have hfields : ∀ fs : List (String × String), PlainFields fs →
      '\n' ∉ Json.fieldsChars (fs.map fun kv => (kv.1, .str kv.2)) := by
    intro fs
    induction fs with
    | nil => exact fun _ h => nomatch h
    | cons kv fs ih =>
      intro hfs
      obtain ⟨hk, hv⟩ := hfs kv (by simp)
      have htail := ih fun kv h => hfs kv (List.mem_cons_of_mem _ h)
      cases fs with
      | nil => simp [Json.fieldsChars, Json.chars, hstring _ hk, hstring _ hv]
      | cons f fs =>
        simp only [List.map_cons] at htail
        simp [Json.fieldsChars, Json.chars, hstring _ hk, hstring _ hv, htail]
  simp [document, Json.ofStringMap, Json.chars, hfields fs hfs]

/-- Nothing follows what the pattern matches. -/
theorem run_fieldPattern_rest {field : List Char}
    (h : Sed.run (fieldPattern field) cs = some (captures, rest)) : rest = [] := by
  have hlast : fieldPattern field = (.star (fun _ => true) :: (literal ('"' :: field ++ ['"']) ++
      [.star isBlank, .char (· == ':'), .star isBlank, .char (· == '"'), .group (· != '"'),
        .char (· == '"')])) ++ [.star fun _ => true] := by
    simp [fieldPattern]
  rw [hlast] at h
  exact run_rest h

/-- The names being distinct, the capture is the value of the pattern's own field. -/
theorem substitute_document (hfs : PlainFields fs) (hnames : (fs.map Prod.fst).Nodup)
    (h : (field, value) ∈ fs) :
    substitute (fieldPattern field.toList) (document fs) = some value.toList := by
  obtain ⟨captures, hmatch⟩ := matches_document hfs h
  obtain ⟨⟨captures', rest⟩, hrun⟩ := Option.isSome_iff_exists.mp (run_complete hmatch)
  obtain ⟨value', hmem, rfl⟩ := fieldPattern_unique hfs (hfs _ h).1 (run_sound hrun)
  obtain rfl := run_fieldPattern_rest hrun
  have hvalue : value' = value := congrArg Prod.snd (List.inj_on_of_nodup_map hnames hmem h rfl)
  cases hdoc : document fs with
  | nil | cons c cs =>
    rw [hdoc] at hrun
    rw [substitute, hrun]
    simp [hvalue]

/-- A line that does not end in line ends is printed as it is. -/
theorem commandSubstitution_singleton {line : List Char} (h : '\n' ∉ line) :
    commandSubstitution [line] = String.ofList line := by
  have hkeep : line.reverse.dropWhile (· == '\n') = line.reverse := by
    rw [List.dropWhile_eq_self_iff]
    intro hpos hc
    exact h (beq_iff_eq.mp hc ▸ List.mem_reverse.mp (List.getElem_mem hpos))
  simp [commandSubstitution, hkeep]

/-- **A field is read back.** -/
theorem extractJsonString_field (hfs : PlainFields fs) (hnames : (fs.map Prod.fst).Nodup)
    (h : (field, value) ∈ fs) :
    extractJsonString field (Json.ofStringMap fs).marshal = value := by
  have hmarshal : (Json.ofStringMap fs).marshal.toList = document fs := String.toList_ofList
  rw [extractJsonString, hmarshal, printed, splitOn_eq_singleton (document_newlineless hfs),
    List.filterMap_cons_some (substitute_document hfs hnames h), List.filterMap_nil,
    commandSubstitution_singleton (hfs _ h).2.newlineless, String.ofList_toList]

/-! ## A record's bundle -/

/-- The alphabet of standard base64 with padding. -/
def isBase64Char (c : Char) : Bool := c.isAlphanum || c == '+' || c == '/' || c == '='

/-- The characters of an IPv4 address. -/
def isAddressChar (c : Char) : Bool := c.isDigit || c == '.'

/-- The characters of the values the operator gives a record: keys in base64, an IPv4 address, and
the link's address with its prefix. -/
structure Written (rec : Record) : Prop where
  privateKey : rec.privateKey.toList.all isBase64Char
  peerPublicKey : rec.peerPublicKey.toList.all isBase64Char
  tunnelAddress : rec.tunnelAddress.toList.all isAddressChar
  peerAllowedIPs : rec.peerAllowedIPs.toList.all fun c => isAddressChar c || c == '/'

theorem toNat_of_isAlphanum (h : c.isAlphanum = true) : c.toNat < 128 := by
  have hranges : (decide (65 ≤ c.val ∧ c.val ≤ 90) || (decide (97 ≤ c.val) && decide (c.val ≤ 122))
      || (decide (48 ≤ c.val) && decide (c.val ≤ 57))) = true := h
  simp only [Bool.or_eq_true, Bool.and_eq_true, decide_eq_true_eq, UInt32.le_iff_toNat_le]
    at hranges
  have htop : c.val.toNat < 128 := by
    rcases hranges with (⟨-, h⟩ | ⟨-, h⟩) | ⟨-, h⟩ <;> exact h.trans_lt (by decide)
  exact htop

/-- Letters, digits and the punctuation of numbers, keys and addresses are written as they are. -/
theorem escape_of_wordChar (h : isBase64Char c = true ∨ c = '.' ∨ c = '-') :
    Json.escape c = [c] ∧ c ≠ ':' := by
  have hascii : ∀ n < 128, isBase64Char (Char.ofNat n) = true ∨ Char.ofNat n = '.' ∨
      Char.ofNat n = '-' → Json.escape (Char.ofNat n) = [Char.ofNat n] ∧ Char.ofNat n ≠ ':' := by
    decide
  have hbound : c.toNat < 128 := by
    rcases h with h | rfl | rfl
    · simp only [isBase64Char, Bool.or_eq_true, beq_iff_eq] at h
      rcases h with ((h | rfl) | rfl) | rfl
      · exact toNat_of_isAlphanum h
      all_goals decide
    all_goals decide
  have hchar := hascii c.toNat hbound
  rw [Char.ofNat_toNat] at hchar
  exact hchar h

theorem isBase64Char_of_isDigit (h : c.isDigit = true) : isBase64Char c = true := by
  simp [isBase64Char, Char.isAlphanum, h]

theorem plain_of_base64 (h : s.toList.all isBase64Char) : Plain s := fun c hc =>
  escape_of_wordChar (.inl (List.all_eq_true.mp h c hc))

theorem escape_of_addressChar (h : isAddressChar c = true) :
    Json.escape c = [c] ∧ c ≠ ':' := by
  rw [isAddressChar, Bool.or_eq_true, beq_iff_eq] at h
  exact escape_of_wordChar (h.imp isBase64Char_of_isDigit .inl)

theorem plain_toString (n : Int) : Plain (toString n) := by
  have hdigits : ∀ n c, c ∈ Nat.toDigits 10 n → Json.escape c = [c] ∧ c ≠ ':' := fun n c hc =>
    escape_of_wordChar (.inl (isBase64Char_of_isDigit
      (Nat.isDigit_of_mem_toDigits (by decide) (by decide) hc)))
  intro c hc
  rw [Int.toString_eq_repr] at hc
  cases n with
  | ofNat n =>
    simp only [Int.repr, Nat.toList_repr] at hc
    exact hdigits n c hc
  | negSucc n =>
    simp only [Int.repr, String.toList_append, Nat.toList_repr, List.mem_append] at hc
    obtain hc | hc := hc
    · obtain rfl : c = '-' := by simpa using hc
      exact escape_of_wordChar (.inr (.inr rfl))
    · exact hdigits _ c hc

theorem plain_append {t : String} (hs : Plain s) (ht : Plain t) : Plain (s ++ t) := fun c hc => by
  rw [String.toList_append, List.mem_append] at hc
  exact hc.elim (hs c) (ht c)

theorem plain_fields {rec : Record} (h : Written rec) :
    PlainFields (payloadFromRecord rec).fields := by
  have hslash : Plain "/" := by decide
  have htunnel : Plain rec.tunnelAddress := fun c hc =>
    escape_of_addressChar (List.all_eq_true.mp h.tunnelAddress c hc)
  have haddress : Plain (payloadFromRecord rec).address :=
    plain_append (plain_append htunnel hslash) (plain_toString _)
  have hallowed : Plain rec.peerAllowedIPs := fun c hc => by
    have hchar := List.all_eq_true.mp h.peerAllowedIPs c hc
    rw [Bool.or_eq_true, beq_iff_eq] at hchar
    obtain hc | rfl := hchar
    · exact escape_of_addressChar hc
    · exact hslash '/' (by decide)
  intro kv hkv
  simp only [BundlePayload.fields, List.mem_cons, List.not_mem_nil, or_false] at hkv
  rcases hkv with rfl | rfl | rfl | rfl | rfl
  · exact ⟨(by decide : Plain "privateKey"), plain_of_base64 h.privateKey⟩
  · exact ⟨(by decide : Plain "address"), haddress⟩
  · exact ⟨(by decide : Plain "slot"), plain_toString _⟩
  · exact ⟨(by decide : Plain "peerPublicKey"), plain_of_base64 h.peerPublicKey⟩
  · exact ⟨(by decide : Plain "peerAllowedIPs"), hallowed⟩

/-- The base of the names is lower case already. -/
theorem toLower_nameBase {uid project base : String} (h : nameBase uid project = .ok base) :
    toLower base = base := by
  simp only [nameBase] at h
  split at h
  · cases h
    rw [toLower_toLower]
  · cases h

/-- `buildXGatewayGCP`, on what names the bundles: the secret id, and the members of the roster. -/
structure BuiltFor (uid project : String) (roster : List RosterEntry) (spec : XGatewayGCPSpec) :
    Prop where
  secretId : nameBase uid project = .ok spec.secretId
  members : spec.members = rosterMembers roster

theorem fetchMetadataAttr_secretId (spec : XGatewayGCPSpec) (obs : Observed)
    (natIp : Option String) :
    fetchMetadataAttr (machine spec obs natIp) "secret-id" = spec.secretId := by
  have hother : ("secret-id" == "user-data") = false := by decide
  simp only [fetchMetadataAttr, machine, machineMetadata, Crossplane.entry]
  split_ifs <;> simp [List.lookup_cons, hother]

theorem secretID_eq {uid project name base : String} {names : ManagedResourceNames}
    (h : nameResourceNames uid project name = .ok names) (hbase : nameBase uid project = .ok base) :
    secretID base (toLower name) = names.cloudSecretName := by
  obtain ⟨base', hbase', hname⟩ := nameResourceNames_base h
  cases hbase.symm.trans hbase'
  rw [hname, toLower_append, toLower_append, toLower_nameBase hbase]
  rfl

/-- **The VM reads back what the operator wrote**, and looks for it under the name it has: the one
that the composition gives the member's secret. -/
theorem bundle_read_back (rec : Record) (hrec : Written rec) :
    (∀ kv ∈ (payloadFromRecord rec).fields, extractJsonString kv.1 (bundleOf rec) = kv.2) ∧
      (∀ uid project name names, nameResourceNames uid project name = .ok names →
        ∃ base, nameBase uid project = .ok base ∧
          secretID base (toLower name) = names.cloudSecretName) ∧
      ∀ uid project roster spec, BuiltFor uid project roster spec →
        ∀ compositeName obs out natIp, render compositeName spec obs = .ok out →
          ∀ e ∈ roster, nameResourceNames uid project e.name = .ok e.names →
            ∃ r ∈ out.resources, r.manifest = .secret e.name ∧ r.externalName =
              some (secretID (fetchMetadataAttr (machine spec obs natIp) "secret-id")
                (toLower e.name)) := by
  have hnames : ((payloadFromRecord rec).fields.map Prod.fst).Nodup :=
    (by decide : ["privateKey", "address", "slot", "peerPublicKey", "peerAllowedIPs"].Nodup)
  refine ⟨fun kv hkv => ?_, fun uid project name names h => ?_, ?_⟩
  · exact extractJsonString_field (plain_fields hrec) hnames hkv
  · obtain ⟨base, hbase, -⟩ := nameResourceNames_base h
    exact ⟨base, hbase, secretID_eq h hbase⟩
  · intro uid project roster spec hspec compositeName obs out natIp hout e he hnames
    obtain ⟨-, link, -, hresources⟩ := Crossplane.render_ok hout
    rw [fetchMetadataAttr_secretId, secretID_eq hnames hspec.secretId, hresources]
    refine ⟨Crossplane.resource spec e.names.cloudSecretName (.secret e.name)
      (some e.names.cloudSecretName), ?_, rfl, rfl⟩
    refine List.mem_append_right _ (List.mem_flatMap.mpr ?_)
    rw [hspec.members]
    exact ⟨_, List.mem_map_of_mem he, List.mem_cons_self⟩

/-- A member's bundle. -/
def bundleExample : Record where
  uid := 1
  resourceVersion := 1
  name := "gw-web-0"
  zone := "zone-a"
  slot := 2
  privateKey := "yAnz5TF+lXXJte14tji3zlMNq+hd2rYUIgJBgB3fBmk="
  publicKey := "xTIBA5rboUvnH4htodjb6e697QjLERt1NAB4mZqp8Dg="
  tunnelAddress := "10.99.0.4"
  subnetPrefix := 29
  peerPublicKey := "HIgo9xNzJMWLKASShiTqIybxZ0U3wGLiUeJ1PKf8ykw="
  peerAllowedIPs := "10.99.0.2/32"
  externalAddress := ""
  instanceID := "7"
  revision := ""
  departureCount := 0
  pendingConfirmation := false
  gatewayUID := "u"
  project := "proj"

theorem bundle_read_back_member : Written bundleExample ∧
    extractJsonString "address" (bundleOf bundleExample) = "10.99.0.4/29" := by
  have hwritten : Written bundleExample := ⟨by decide, by decide, by decide, by decide⟩
  have hfield : ("address", "10.99.0.4/29") ∈ (payloadFromRecord bundleExample).fields := by decide
  have hread := (bundle_read_back bundleExample hwritten).1 ("address", "10.99.0.4/29") hfield
  exact ⟨hwritten, hread⟩

end WireguardGateway.Vm
