/-
# The host as the URL writes it

A host can be spelled in many ways, and the URL writes it in one.  Capitals become small, escapes are
undone, a name beyond ASCII is written in ASCII, tabs and line breaks vanish, and addresses are written
anew.  Full-width letters, decomposed ones and other variants give way to what they stand for.  This
module says for which spellings a URL writes nothing else than what was given, but for capitals
(`IsWrittenForm`).

What the URL writes is always of ASCII and holds no percent sign, no tab and no line break
(`isWritten_of_specialHost`), so a spelling with any of these is never what is written.  Without them a
name stays as it is: a label of ASCII is written as it is even where it bears the mark of a label
beyond ASCII, for then it must be exactly what that label is written as (`written_of_shown?`).  There
remain the addresses, and of these only the written form is read as what it is
(`text_of_lower_eq_address`).

Main statements:
* `isWritten_of_specialHost`: what a host is written with;
* `specialHost_of_plain`: what becomes of a spelling in plain ASCII;
* `lower_eq_lower_text_iff`: for which spellings a host is written as it was given;
* `parse_https`, `hostText_https`: the host of `https://h/` is read from `h` alone.
-/
import PluginArbiter.Proofs.Url.Address
import PluginArbiter.Url.Basic

namespace PluginArbiter

namespace Url

/-! ## 1. Labels -/

namespace Punycode

theorem toNat_digitChar_lt {d : Nat} (h : d < 36) : (digitChar d).toNat < 0x80 := by
  have hall : ∀ e ∈ List.range 36, (digitChar e).toNat < 0x80 := by decide
  exact hall d (List.mem_range.mpr h)

theorem ascii_writeDigits (bias position q : Nat) :
    ∀ c ∈ writeDigits bias position q, c.toNat < 0x80 := by
  have hpos := threshold_pos
  have hle := threshold_le
  fun_induction writeDigits bias position q with
  | case1 position q t hlt =>
    intro c hc
    obtain rfl := List.mem_singleton.mp hc
    have := hle position bias
    exact toNat_digitChar_lt (by omega)
  | case2 position q t hge ih =>
    intro c hc
    rcases List.mem_cons.mp hc with rfl | hc
    · have := hle position bias
      have := Nat.mod_lt (q - t) (by omega : 0 < 36 - t)
      exact toNat_digitChar_lt (by omega)
    · exact ih c hc

theorem ascii_pass {basic n : Nat} {w : Writer} (h : ∀ c ∈ w.digits, c.toNat < 0x80) (c : Char) :
    ∀ d ∈ (Writer.pass basic n w c).digits, d.toNat < 0x80 := by
  unfold Writer.pass
  split
  · exact h
  · split
    · exact List.forall_mem_append.mpr ⟨h, ascii_writeDigits _ _ _⟩
    · exact h

theorem ascii_writeRest {label : List Char} {basic : Nat} {others : List Nat} {next : Nat} {w : Writer}
    (h : ∀ c ∈ w.digits, c.toNat < 0x80) :
    ∀ c ∈ (writeRest label basic others next w).digits, c.toNat < 0x80 := by
  induction others generalizing next w with
  | nil => exact h
  | cons n rest ih =>
    have hpasses : ∀ (l : List Char) (w : Writer), (∀ c ∈ w.digits, c.toNat < 0x80) →
        ∀ c ∈ (l.foldl (Writer.pass basic n) w).digits, c.toNat < 0x80 := by
      intro l
      induction l with
      | nil => exact fun _ hw => hw
      | cons c r ihl => exact fun w hw => ihl _ (ascii_pass hw c)
    exact ih (hpasses label _ h)

/-- The ASCII form of a label is of ASCII. -/
theorem ascii_write (label : List Char) : ∀ c ∈ write label, c.toNat < 0x80 := by
  have hbasic : ∀ c ∈ label.filter (fun c => c.toNat < 0x80), c.toNat < 0x80 := fun c hc =>
    of_decide_eq_true (List.mem_filter.mp hc).2
  have hdash : ∀ c ∈ (if (label.filter (fun c => c.toNat < 0x80)).isEmpty then [] else ['-']),
      c.toNat < 0x80 := by
    intro c hc
    split at hc
    · exact absurd hc List.not_mem_nil
    · rw [List.mem_singleton.mp hc]
      decide
  exact List.forall_mem_append.mpr ⟨List.forall_mem_append.mpr ⟨hbasic, hdash⟩,
    ascii_writeRest fun c hc => absurd hc List.not_mem_nil⟩

end Punycode

namespace Label

/-- A label is written in ASCII. -/
theorem isAscii_written (shown : List Char) : isAscii (written shown) = true := by
  unfold written
  split
  · assumption
  · have hmark : isAscii mark = true := by decide
    exact isAscii_iff.mpr (List.forall_mem_append.mpr ⟨isAscii_iff.mp hmark, Punycode.ascii_write shown⟩)

/-- **A label of ASCII is written as it is**, also where it shows more. -/
theorem written_of_shown? {label shown : List Char} (ha : isAscii label = true)
    (h : shown? label = some shown) : written shown = label := by
  unfold shown? at h
  split at h
  · rename_i hmark
    dsimp only at h
    split at h
    · obtain ⟨-, hkept⟩ := Option.filter_eq_some_iff.mp h
      simp only [Bool.and_eq_true, Bool.not_eq_true', beq_iff_eq] at hkept
      obtain ⟨⟨hbeyond, -⟩, hcode⟩ := hkept
      obtain ⟨code, rfl⟩ := List.isPrefixOf_iff_prefix.mp hmark
      rw [written, hbeyond, hcode]
      simp
    · exact absurd h (by simp)
  · split at h
    · obtain rfl := Option.some.inj h
      exact written_of_ascii ha
    · exact absurd h (by simp)

theorem written_of_mapM_shown? {labels shown : List (List Char)}
    (ha : ∀ label ∈ labels, isAscii label = true) (h : labels.mapM shown? = some shown) :
    shown.map written = labels := by
  induction labels generalizing shown with
  | nil =>
    obtain rfl := Option.some.inj h
    rfl
  | cons label rest ih =>
    simp only [List.mapM_cons, bind, Option.bind_eq_some_iff, pure, Option.some.injEq] at h
    obtain ⟨first, hfirst, others, hothers, rfl⟩ := h
    rw [List.map_cons, written_of_shown? (ha label List.mem_cons_self) hfirst,
      ih (fun l hl => ha l (List.mem_cons_of_mem _ hl)) hothers]

end Label

/-! ## 2. Names -/

variable {cs name : List Char}

/-- The octets of a text are read as the text. -/
theorem fromUTF8?_octets (cs : List Char) :
    String.fromUTF8? (ByteArray.mk (cs.flatMap String.utf8EncodeChar).toArray)
      = some (String.ofList cs) := by
  have hoctets : ByteArray.mk (cs.flatMap String.utf8EncodeChar).toArray
      = (String.ofList cs).toByteArray := by
    rw [String.toByteArray_ofList]
    exact ByteArray.ext List.data_toByteArray.symm
  rw [hoctets, String.fromUTF8?, dif_pos (String.ofList cs).isValidUTF8]
  rfl

/-- Without escapes a text stands for its own octets. -/
theorem decode_of_no_percent (h : '%' ∉ cs) : decode cs = cs.flatMap String.utf8EncodeChar := by
  induction cs with
  | nil => rfl
  | cons c r ih =>
    obtain ⟨hc, hr⟩ := not_or.mp (mt List.mem_cons.mpr h)
    rw [decode, ih hr, List.flatMap_cons]
    exact fun _ _ _ he _ => hc he.symm

/-- What a name is written with: characters of ASCII that a name may hold. -/
theorem mem_asciiName? {octets : List UInt8} (h : asciiName? octets = some name) :
    ∀ c ∈ name, c.toNat < 0x80 ∧ forbiddenInName c = false := by
  simp only [asciiName?, bind, Option.bind_eq_some_iff] at h
  obtain ⟨text, -, prepared, -, shown, -, h⟩ := h
  split at h
  · rename_i hfits
    obtain rfl := Option.some.inj h
    have hallowed : ∀ c ∈ Text.join '.' (shown.map Label.written), forbiddenInName c = false := by
      simpa using hfits.2
    refine fun c hc => ⟨?_, hallowed c hc⟩
    rcases Text.mem_join hc with rfl | ⟨label, hlabel, hc⟩
    · decide
    · obtain ⟨s, -, rfl⟩ := List.mem_map.mp hlabel
      exact Label.isAscii_iff.mp (Label.isAscii_written s) c hc
  · exact absurd h (by simp)

/-- **A name of ASCII is written as it is**, in small letters. -/
theorem asciiName?_of_ascii (ha : ∀ c ∈ cs, c.toNat < 0x80)
    (h : asciiName? (cs.flatMap String.utf8EncodeChar) = some name) : name = cs.map Char.toLower := by
  simp only [asciiName?, bind, Option.bind_eq_some_iff, fromUTF8?_octets] at h
  obtain ⟨text, htext, prepared, hprepared, shown, hshown, h⟩ := h
  obtain rfl := Option.some.inj htext
  rw [String.toList_ofList, Label.prepared?_of_ascii ha] at hprepared
  obtain rfl := Option.some.inj hprepared
  have hlabels : ∀ label ∈ Text.pieces '.' (cs.map Char.toLower), Label.isAscii label = true := by
    intro label hlabel
    refine Label.isAscii_iff.mpr fun c hc => ?_
    obtain ⟨d, hd, rfl⟩ := List.mem_map.mp (Text.mem_of_mem_pieces hlabel hc)
    exact Text.toNat_toLower_lt (ha d hd)
  rw [Label.written_of_mapM_shown? hlabels hshown, Text.join_pieces] at h
  split at h
  · exact (Option.some.inj h).symm
  · exact absurd h (by simp)

/-! ## 3. What a host is written with -/

/-- A character that can stand in a host as the URL writes it: one of ASCII, but no percent sign, no
tab and no line break. -/
def isWritten (c : Char) : Bool := c.toNat < 0x80 && c != '%' && !isBreak c

theorem isWritten_iff {c : Char} :
    isWritten c = true ↔ c.toNat < 0x80 ∧ c ≠ '%' ∧ isBreak c = false := by
  simp [isWritten, and_assoc]

/-- Breaks stand in front of everything that can be seen. -/
theorem isBreak_eq_false {c : Char} (h : 0x20 < c.toNat) : isBreak c = false := by
  have hne : ∀ d : Char, d.toNat ≤ 0x20 → c ≠ d := by
    rintro d hd rfl
    omega
  simp [isBreak, hne '\t' (by decide), hne '\n' (by decide), hne '\r' (by decide)]

theorem isWritten_of_toNat {c : Char} (hl : 0x26 ≤ c.toNat) (hu : c.toNat < 0x80) :
    isWritten c = true := by
  have hpercent : c ≠ '%' := by
    rintro rfl
    exact absurd hl (by decide)
  exact isWritten_iff.mpr ⟨hu, hpercent, isBreak_eq_false (by omega)⟩

theorem isWritten_v4Text (address : Nat) : ∀ c ∈ v4Text address, isWritten c = true := by
  intro c hc
  obtain ⟨hl, hu⟩ := bounds_of_mem_v4Text hc
  exact isWritten_of_toNat (Nat.le_trans (by decide) hl) (Nat.lt_of_le_of_lt hu (by decide))

theorem isWritten_v6Text (ps : List Nat) : ∀ c ∈ v6Text ps, isWritten c = true := by
  have hall : ∀ c ∈ ':' :: (List.range 16).map (Text.digit false), isWritten c = true :=
    List.all_eq_true.mp (by decide)
  exact fun c hc => hall c (mem_v6Text hc)

theorem isWritten_of_not_forbidden {c : Char} (ha : c.toNat < 0x80)
    (h : forbiddenInName c = false) : isWritten c = true := by
  simp only [forbiddenInName, Bool.or_eq_false_iff, decide_eq_false_iff_not, Nat.not_le] at h
  obtain ⟨⟨hspace, -⟩, hnone⟩ := h
  have hpercent : c ≠ '%' := by
    rintro rfl
    exact absurd hnone (by decide)
  exact isWritten_iff.mpr ⟨ha, hpercent, isBreak_eq_false hspace⟩

/-- What is read in brackets is an address of eight pieces. -/
theorem bracketed_eq_ok {host : Host} (h : bracketed cs = .ok host) :
    ∃ inner pieces, cs = inner ++ [']'] ∧ v6Address? inner = some pieces ∧ host = .v6 pieces := by
  unfold bracketed at h
  split at h
  · rename_i hclosed
    obtain ⟨inner, rfl⟩ := List.getLast?_eq_some_iff.mp hclosed
    rw [List.dropLast_concat] at h
    split at h
    · rename_i pieces hpieces
      exact ⟨inner, pieces, rfl, hpieces, (Except.ok.inj h).symm⟩
    · exact absurd h (by simp)
  · exact absurd h (by simp)

/-- What is read without brackets is a name or an address of four octets. -/
theorem specialHost_of_no_bracket {host : Host} (hbracket : cs.head? ≠ some '[')
    (h : specialHost cs = .ok host) :
    ∃ name, asciiName? (decode cs) = some name ∧
      ((endsInNumber name = true ∧ ∃ address, v4Address? name = some address ∧ host = .v4 address) ∨
        (endsInNumber name = false ∧ host = .name (String.ofList name))) := by
  unfold specialHost at h
  split at h
  · exact absurd rfl hbracket
  · split at h
    · exact absurd h (by simp)
    · exact absurd h (by simp)
    · rename_i name _ hname
      refine ⟨name, hname, ?_⟩
      split at h
      · rename_i hnumber
        split at h
        · rename_i address haddress
          exact Or.inl ⟨hnumber, address, haddress, (Except.ok.inj h).symm⟩
        · exact absurd h (by simp)
      · rename_i hnumber
        exact Or.inr ⟨by simpa using hnumber, (Except.ok.inj h).symm⟩

/-- **What a host is written with**, however it was spelled. -/
theorem isWritten_of_specialHost {host : Host} (h : specialHost cs = .ok host) :
    ∀ c ∈ host.text.toList, isWritten c = true := by
  by_cases hbracket : cs.head? = some '['
  · obtain ⟨r, rfl⟩ := List.head?_eq_some_iff.mp hbracket
    obtain ⟨inner, pieces, -, -, rfl⟩ := bracketed_eq_ok h
    rw [Host.text, String.toList_ofList]
    have hbrackets : isWritten '[' = true ∧ isWritten ']' = true := by decide
    simpa [or_imp, forall_and, hbrackets] using isWritten_v6Text pieces
  · obtain ⟨name, hname, ⟨-, address, -, rfl⟩ | ⟨-, rfl⟩⟩ := specialHost_of_no_bracket hbracket h
    · rw [Host.text, String.toList_ofList]
      exact isWritten_v4Text address
    · rw [Host.text, String.toList_ofList]
      intro c hc
      obtain ⟨ha, hallowed⟩ := mem_asciiName? hname c hc
      exact isWritten_of_not_forbidden ha hallowed

/-- **What becomes of a spelling in plain ASCII** without brackets: it is the name in small letters, or
where that ends in a number the address. -/
theorem specialHost_of_plain {host : Host} (hplain : ∀ c ∈ cs, isWritten c = true)
    (hbracket : cs.head? ≠ some '[') (h : specialHost cs = .ok host) :
    (endsInNumber (cs.map Char.toLower) = true ∧
        ∃ address, v4Address? (cs.map Char.toLower) = some address ∧ host = .v4 address) ∨
      (endsInNumber (cs.map Char.toLower) = false ∧
        host = .name (String.ofList (cs.map Char.toLower))) := by
  have hascii : ∀ c ∈ cs, c.toNat < 0x80 := fun c hc => (isWritten_iff.mp (hplain c hc)).1
  have hpercent : '%' ∉ cs := fun hmem => absurd (hplain '%' hmem) (by decide)
  obtain ⟨name, hname, hcases⟩ := specialHost_of_no_bracket hbracket h
  rw [decode_of_no_percent hpercent] at hname
  obtain rfl := asciiName?_of_ascii hascii hname
  exact hcases

/-! ## 4. Reading a spelled host -/

/-- A text that can stand between the slashes as a host: nothing in it ends the host or names a user,
and a colon stands within brackets only, so that it names no port. -/
def IsHostText (cs : List Char) : Prop :=
  (∀ c ∈ cs, c ∉ ['@', '/', '\\', '?', '#']) ∧ hostLength false cs = cs.length

instance (cs : List Char) : Decidable (IsHostText cs) :=
  decidable_of_iff
    (cs.all (fun c => decide (c ∉ ['@', '/', '\\', '?', '#'])) = true ∧
      hostLength false cs = cs.length)
    (by simp [IsHostText])

theorem hostLength_withoutBreaks {inBrackets : Bool} (h : hostLength inBrackets cs = cs.length) :
    hostLength inBrackets (withoutBreaks cs) = (withoutBreaks cs).length := by
  induction cs generalizing inBrackets with
  | nil => rfl
  | cons c r ih =>
    rw [hostLength] at h
    split at h
    · exact absurd h (by simp)
    · rename_i hcolon
      have hrest := ih (Nat.succ.inj h)
      cases hbreak : isBreak c with
      | true =>
        -- a break is no bracket
        have hopen : c ≠ '[' := by
          rintro rfl
          exact absurd hbreak (by decide)
        have hclose : c ≠ ']' := by
          rintro rfl
          exact absurd hbreak (by decide)
        rw [if_neg hopen, if_neg hclose] at hrest
        have hgone : withoutBreaks (c :: r) = withoutBreaks r :=
          List.filter_cons_of_neg (by simp [hbreak])
        rw [hgone]
        exact hrest
      | false =>
        have hkept : withoutBreaks (c :: r) = c :: withoutBreaks r :=
          List.filter_cons_of_pos (by simp [hbreak])
        rw [hkept, hostLength, if_neg hcolon, hrest, List.length_cons]

/-- Breaks make no difference to whether a text can stand as a host. -/
theorem IsHostText.withoutBreaks (h : IsHostText cs) : IsHostText (withoutBreaks cs) :=
  ⟨fun c hc => h.1 c (List.mem_filter.mp hc).1, hostLength_withoutBreaks h.2⟩

/-- A host without a port. -/
theorem hostAndPort_of_whole (hne : cs ≠ []) (h : hostLength false cs = cs.length) :
    hostAndPort "https" cs = (specialHost cs).map fun host => (some host, none, []) := by
  have hspecial : isSpecial "https" = true := by decide
  have hport : portNumber "https" [] = .ok none := rfl
  have hsome : cs.isEmpty = false := by simpa using hne
  simp only [hostAndPort, h, List.take_length, List.drop_length, hsome, hspecial]
  cases specialHost cs with
  | error e => rfl
  | ok host => rfl

/-- Where neither end is a space nothing is trimmed. -/
theorem trimmed_of_edges {input : String} {first last : Char} {middle : List Char}
    (h : input.toList = first :: (middle ++ [last])) (hfirst : 0x20 < first.toNat)
    (hlast : 0x20 < last.toNat) : trimmed input = input.toList := by
  have hback : (first :: (middle ++ [last])).reverse = last :: (first :: middle).reverse := by simp
  rw [trimmed, h, List.dropWhile_cons_of_neg (by simp; omega), hback,
    List.dropWhile_cons_of_neg (by simp; omega), ← hback, List.reverse_reverse]

/-- Nothing at all is no host. -/
theorem specialHost_nil : specialHost [] = .error .emptyHost := by
  have hname : asciiName? [] = some [] := by
    have hoctets := fromUTF8?_octets []
    rw [List.flatMap_nil] at hoctets
    rw [asciiName?, hoctets]
    decide
  simp only [specialHost, decode, hname]

/-- What stands in front of the slash is read as a host without user and port. -/
theorem readHierarchical_https (hne : cs ≠ []) (hplain : ∀ c ∈ cs, c ∉ ['@', '/', '\\', '?', '#'])
    (hlength : hostLength false cs = cs.length) :
    readHierarchical "https" (cs ++ ['/']) = (specialHost cs).map fun host =>
      { scheme := "https", authority := some { host := some host }, path := "/" } := by
  have hspecial : isSpecial "https" = true := by decide
  have hthrough : ∀ c ∈ cs, (!endsAuthority true c) = true := by
    intro c hc
    have hnone := hplain c hc
    simp only [List.mem_cons, List.not_mem_nil, or_false, not_or] at hnone
    simp [endsAuthority, hnone]
  have hbefore : (cs ++ ['/']).takeWhile (fun c => !endsAuthority true c) = cs := by
    rw [List.takeWhile_append_of_pos hthrough]
    simp [endsAuthority]
  have hafter : (cs ++ ['/']).dropWhile (fun c => !endsAuthority true c) = ['/'] := by
    rw [List.dropWhile_append_of_pos hthrough]
    simp [endsAuthority]
  have huser : splitAtLastAt? cs = none := by
    have hat : '@' ∉ cs := fun hmem => hplain '@' hmem (by simp)
    rw [splitAtLastAt?, if_neg (by simpa using hat)]
  simp only [readHierarchical, hspecial, hbefore, hafter, readAuthority, huser,
    hostAndPort_of_whole hne hlength]
  cases specialHost cs with
  | error e => rfl
  | ok host => rfl

/-- **The host of `https://h/` is read from `h` alone**, without its breaks. -/
theorem parse_https {h : String} (hhost : IsHostText h.toList) :
    parse ("https://" ++ h ++ "/") = (specialHost (withoutBreaks h.toList)).map fun host =>
      { scheme := "https", authority := some { host := some host }, path := "/" } := by
  obtain ⟨hplain, hlength⟩ := hhost.withoutBreaks
  have htrimmed : trimmed ("https://" ++ h ++ "/") = "https://".toList ++ h.toList ++ ['/'] := by
    have htext : ("https://" ++ h ++ "/").toList = "https://".toList ++ h.toList ++ ['/'] := by
      simp
    have hedges : ("https://" ++ h ++ "/").toList
        = 'h' :: (("ttps://".toList ++ h.toList) ++ ['/']) := by
      simp
    rw [← htext]
    exact trimmed_of_edges hedges (by decide) (by decide)
  have hread : withoutBreaks (trimmed ("https://" ++ h ++ "/"))
      = "https://".toList ++ withoutBreaks h.toList ++ ['/'] := by
    rw [htrimmed, withoutBreaks, List.filter_append, List.filter_append]
    rfl
  generalize withoutBreaks h.toList = cs at hplain hlength hread ⊢
  have hscheme : splitScheme? ("https://".toList ++ cs ++ ['/'])
      = some ("https", '/' :: '/' :: (cs ++ ['/'])) := rfl
  have hspecial : isSpecial "https" = true := by decide
  simp only [parse, hread, hscheme, hspecial]
  rw [if_neg (by decide), if_pos trivial]
  cases cs with
  | nil =>
    rw [specialHost_nil]
    rfl
  | cons c r =>
    have hslash : (c == '/' || c == '\\') = false := by
      have hnone := hplain c List.mem_cons_self
      simp only [List.mem_cons, List.not_mem_nil, or_false, not_or] at hnone
      simp [hnone]
    have hdropped : ('/' :: '/' :: (c :: r ++ ['/'])).dropWhile (fun c => c == '/' || c == '\\')
        = c :: r ++ ['/'] := by
      simp [hslash]
    rw [hdropped]
    exact readHierarchical_https (by simp) hplain hlength

/-! ## 5. Which spellings are written as they are -/

/-- An address that can be given: eight pieces are eight, of sixteen bits each. -/
def Host.IsAddress : Host → Prop
  | .name _ => False
  | .v4 _ => True
  | .v6 pieces => pieces.length = 8 ∧ ∀ p ∈ pieces, p < 0x10000

/-- Whether a spelling is meant as an address: it begins with a bracket or ends in a number. -/
def SpellsAddress (h : String) : Prop :=
  h.toList.head? = some '[' ∨ endsInNumber (Text.lower h).toList = true

instance (h : String) : Decidable (SpellsAddress h) :=
  inferInstanceAs (Decidable (_ ∨ _))

/-- A spelling that a URL can have written itself, capitals apart: all of it is of what a URL writes,
and an address is given as addresses are written. -/
def IsWrittenForm (h : String) : Prop :=
  (∀ c ∈ h.toList, isWritten c = true) ∧
    (SpellsAddress h → ∃ address : Host, address.IsAddress ∧ Text.lower h = address.text)

variable {h : String} {host : Host}

/-- A letter is written in either case. -/
theorem isWritten_toLower (c : Char) : isWritten c.toLower = isWritten c := by
  by_cases h : 65 ≤ c.toNat ∧ c.toNat ≤ 90
  · have hlower := Text.toNat_toLower_of_capital h
    rw [isWritten_of_toNat (by omega) (by omega), isWritten_of_toNat (by omega) (by omega)]
  · rw [Text.toLower_of_not_capital h]

theorem forall_isWritten_lower :
    (∀ c ∈ (Text.lower h).toList, isWritten c = true) ↔ ∀ c ∈ h.toList, isWritten c = true := by
  simp only [Text.toList_lower, List.forall_mem_map, isWritten_toLower]

/-- A spelling in plain ASCII holds no breaks. -/
theorem withoutBreaks_of_plain (hplain : ∀ c ∈ h.toList, isWritten c = true) :
    withoutBreaks h.toList = h.toList := by
  refine List.filter_eq_self.mpr fun c hc => ?_
  obtain ⟨-, -, hbreak⟩ := isWritten_iff.mp (hplain c hc)
  rw [hbreak]
  rfl

/-- Addresses are written without capitals. -/
theorem lower_text_of_isAddress (haddress : host.IsAddress) : Text.lower host.text = host.text := by
  have hsame {cs : List Char} (hcs : ∀ c ∈ cs, c.toLower = c) :
      Text.lower (String.ofList cs) = String.ofList cs := by
    rw [Text.lower, String.toList_ofList, List.map_congr_left hcs, List.map_id']
  cases host with
  | name text => exact absurd haddress id
  | v4 address =>
    refine hsame fun c hc => Text.toLower_of_not_capital fun hcapital => ?_
    exact absurd (Nat.le_trans hcapital.1 (bounds_of_mem_v4Text hc).2) (by decide)
  | v6 pieces =>
    have hall : ∀ c ∈ ':' :: (List.range 16).map (Text.digit false), (c.toLower == c) = true :=
      List.all_eq_true.mp (by decide)
    have htext : ∀ c ∈ v6Text pieces, c.toLower = c := fun c hc => eq_of_beq (hall c (mem_v6Text hc))
    have hbrackets : '['.toLower = '[' ∧ ']'.toLower = ']' := by decide
    refine hsame ?_
    simpa [or_imp, forall_and, hbrackets] using htext

/-- What is meant as an address is read as one. -/
theorem isAddress_of_spellsAddress (hread : specialHost h.toList = .ok host)
    (hplain : ∀ c ∈ h.toList, isWritten c = true) (hspells : SpellsAddress h) : host.IsAddress := by
  by_cases hbracket : h.toList.head? = some '['
  · obtain ⟨r, hr⟩ := List.head?_eq_some_iff.mp hbracket
    rw [hr] at hread
    obtain ⟨inner, pieces, -, hpieces, rfl⟩ := bracketed_eq_ok hread
    exact v6Address?_sound hpieces
  · have hnumber : endsInNumber (h.toList.map Char.toLower) = true := by
      rw [← Text.toList_lower]
      exact hspells.resolve_left hbracket
    rcases specialHost_of_plain hplain hbracket hread with ⟨-, address, -, rfl⟩ | ⟨hname, -⟩
    · trivial
    · exact absurd (hname.symm.trans hnumber) (by decide)

theorem text_of_lower_eq_v4 {address : Nat} (hread : specialHost h.toList = .ok host)
    (hplain : ∀ c ∈ h.toList, isWritten c = true) (hspells : SpellsAddress h)
    (hsame : Text.lower h = (Host.v4 address).text) : host.text = (Host.v4 address).text := by
  have hletters : h.toList.map Char.toLower = v4Text address := by
    rw [← Text.toList_lower, hsame, Host.text, String.toList_ofList]
  -- four octets are written without brackets, so it is the number at the end that makes it an address
  have hbracket : h.toList.head? ≠ some '[' := by
    intro hhead
    obtain ⟨r, hr⟩ := List.head?_eq_some_iff.mp hhead
    have hmem : '[' ∈ v4Text address := by
      rw [← hletters, hr]
      exact List.mem_cons_self
    exact absurd (bounds_of_mem_v4Text hmem).2 (by decide)
  have hnumber : endsInNumber (h.toList.map Char.toLower) = true := by
    rw [← Text.toList_lower]
    exact hspells.resolve_left hbracket
  rcases specialHost_of_plain hplain hbracket hread with ⟨-, found, hfound, rfl⟩ | ⟨hname, -⟩
  · obtain ⟨same, hsame, htext⟩ := v4Address?_v4Text address
    rw [hletters, hsame] at hfound
    obtain rfl := Option.some.inj hfound
    rw [Host.text, Host.text, htext]
  · exact absurd (hname.symm.trans hnumber) (by decide)

theorem eq_of_lower_eq_v6 {pieces : List Nat} (hread : specialHost h.toList = .ok host)
    (haddress : (Host.v6 pieces).IsAddress) (hsame : Text.lower h = (Host.v6 pieces).text) :
    host = .v6 pieces := by
  obtain ⟨hlength, hsmall⟩ := haddress
  have hletters : h.toList.map Char.toLower = '[' :: (v6Text pieces ++ [']']) := by
    rw [← Text.toList_lower, hsame, Host.text, String.toList_ofList]
    rfl
  obtain ⟨c, r, hr, hc, hrest⟩ := List.map_eq_cons_iff.mp hletters
  obtain rfl : c = '[' := (Text.toLower_eq_iff (by decide)).mp hc
  rw [hr] at hread
  obtain ⟨inner, found, rfl, hfound, rfl⟩ := bracketed_eq_ok hread
  have hinner : inner.map Char.toLower = v6Text pieces := by
    rw [List.map_append] at hrest
    exact List.append_inj_left' hrest rfl
  rw [← v6Address?_toLower, hinner, v6Address?_v6Text hlength hsmall] at hfound
  rw [Option.some.inj hfound]

/-- **An address in its written form is read as that address**, so it is written so again. -/
theorem text_of_lower_eq_address {address : Host} (hread : specialHost h.toList = .ok host)
    (hplain : ∀ c ∈ h.toList, isWritten c = true) (hspells : SpellsAddress h)
    (haddress : address.IsAddress) (hsame : Text.lower h = address.text) :
    host.text = address.text := by
  cases address with
  | name text => exact absurd haddress id
  | v4 address => exact text_of_lower_eq_v4 hread hplain hspells hsame
  | v6 pieces => rw [eq_of_lower_eq_v6 hread haddress hsame]

/-- **A URL writes what was given, capitals apart, exactly if that is in written form.** -/
theorem lower_eq_lower_text_iff (hread : specialHost (withoutBreaks h.toList) = .ok host) :
    Text.lower h = Text.lower host.text ↔ IsWrittenForm h := by
  constructor
  · intro hsame
    -- whatever is not in plain ASCII is still there in small letters, but no URL writes it
    have hplain : ∀ c ∈ h.toList, isWritten c = true := by
      rw [← forall_isWritten_lower, hsame]
      exact forall_isWritten_lower.mpr (isWritten_of_specialHost hread)
    rw [withoutBreaks_of_plain hplain] at hread
    refine ⟨hplain, fun hspells => ?_⟩
    have haddress := isAddress_of_spellsAddress hread hplain hspells
    exact ⟨host, haddress, hsame.trans (lower_text_of_isAddress haddress)⟩
  · rintro ⟨hplain, hwritten⟩
    rw [withoutBreaks_of_plain hplain] at hread
    by_cases hspells : SpellsAddress h
    · obtain ⟨address, haddress, hsame⟩ := hwritten hspells
      rw [text_of_lower_eq_address hread hplain hspells haddress hsame,
        lower_text_of_isAddress haddress, hsame]
    · obtain ⟨hbracket, hnumber⟩ := not_or.mp hspells
      rw [Text.toList_lower] at hnumber
      rcases specialHost_of_plain hplain hbracket hread with ⟨hends, -⟩ | ⟨-, rfl⟩
      · exact absurd hends hnumber
      · exact (Text.lower_lower h).symm

/-- **The host of `https://h/`**, and when it is `h` itself, capitals apart. -/
theorem hostText_https {u : Url} (hhost : IsHostText h.toList)
    (hparse : parse ("https://" ++ h ++ "/") = .ok u) :
    ∃ text, u.hostText? = some text ∧ (Text.lower h = Text.lower text ↔ IsWrittenForm h) := by
  rw [parse_https hhost] at hparse
  cases hread : specialHost (withoutBreaks h.toList) with
  | error e =>
    rw [hread] at hparse
    exact absurd hparse (by simp [Except.map])
  | ok host =>
    rw [hread] at hparse
    obtain rfl := Except.ok.inj hparse
    exact ⟨host.text, rfl, lower_eq_lower_text_iff hread⟩

end Url

end PluginArbiter
