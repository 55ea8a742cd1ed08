import Mathlib.Data.List.DropRight
import Mathlib.Data.List.TakeWhile
import ModalEditing.Proofs.Text.Numeral
import ModalEditing.Proofs.Text.Pieces

namespace ModalEditing

namespace Text

open Unicode

variable {text : Text}

/-!
Blanks at the two ends of a text, none of which are left when they are taken
off.
-/

theorem trimStart_of_solid (solid : ∀ c ∈ text.head?, isBlank c = false) :
    trimStart text = text := by
  cases text with
  | nil => rfl
  | cons c rest =>
      exact List.dropWhile_cons_of_neg (Bool.eq_false_iff.mp (solid c rfl))

theorem trimEnd_of_solid (solid : ∀ c ∈ text.getLast?, isBlank c = false) :
    trimEnd text = text := by
  have reversed : trimStart text.reverse = text.reverse :=
    trimStart_of_solid fun c member => solid c (List.head?_reverse ▸ member)
  exact (congrArg List.reverse reversed).trans text.reverse_reverse

theorem trim_of_solid (first : ∀ c ∈ text.head?, isBlank c = false)
    (last : ∀ c ∈ text.getLast?, isBlank c = false) : trim text = text := by
  rw [trim, trimStart_of_solid first, trimEnd_of_solid last]

theorem solid_head_trimStart (text : Text) :
    ∀ c ∈ (trimStart text).head?, isBlank c = false := by
  intro c member
  have first := List.head?_dropWhile_not isBlank text
  rw [← trimStart, member] at first
  exact first

theorem solid_last_trim (text : Text) :
    ∀ c ∈ (trim text).getLast?, isBlank c = false := by
  intro c member
  rw [trim, trimEnd, List.getLast?_reverse] at member
  exact solid_head_trimStart (trimStart text).reverse c member

theorem solid_head_trim (text : Text) :
    ∀ c ∈ (trim text).head?, isBlank c = false := by
  intro c member
  obtain ⟨rest, whole⟩ := List.rdropWhile_prefix isBlank (trimStart text)
  refine solid_head_trimStart text c ?_
  rw [← whole]
  exact List.mem_head?_append_of_mem_head? member

@[simp] theorem trim_trim (text : Text) : trim (trim text) = trim text :=
  trim_of_solid (solid_head_trim text) (solid_last_trim text)

theorem isBlank_of_isDigit {c : Char} (digit : c.isDigit = true) :
    isBlank c = false := by
  have bounds : 48 ≤ c.toNat ∧ c.toNat ≤ 57 := by
    simpa [Char.isDigit, Char.le_def, UInt32.le_iff_toNat_le] using digit
  refine Bool.eq_false_iff.mpr fun blank => ?_
  simp [isBlank, blanks] at blank
  omega

end Text

/--
The canonical text of a substitution, with the slash behind the replacement.
-/
def Substitution.text (substitution : Substitution) : Text :=
  (if substitution.allLines then ['%'] else []) ++ ['s', '/'] ++
    substitution.pattern ++ ['/'] ++
    substitution.replacement ++ ['/'] ++
    (if substitution.everywhere then ['g'] else [])

/--
There is something to look for, and the slashes around the two texts stand out.
-/
structure Substitution.Writable (substitution : Substitution) : Prop where
  pattern_ne_nil : substitution.pattern ≠ []
  pattern_free : '/' ∉ substitution.pattern
  replacement_free : '/' ∉ substitution.replacement

namespace ExCommand

def text : ExCommand → Text
  | write => "w"
  | quit => "q"
  | writeQuit => "wq"
  | goToLine number => Text.decimal number
  | substitute substitution => substitution.text
  | unknown text => text

/-! Commands read again from their canonical texts. -/

@[simp] theorem ofText?_trim (typed : Text) :
    ofText? (Text.trim typed) = ofText? typed := by
  unfold ofText?
  rw [Text.trim_trim]

theorem ofText?_keyword {text : Text} {command : ExCommand}
    (listed : (text, command) ∈ keywords) :
    ofText? command.text = some command := by
  have canonical :
      keywords.all (fun entry => ofText? entry.2.text = some entry.2) =
        true := by
    decide
  simpa using List.all_eq_true.mp canonical _ listed

theorem lookup_decimal (n : Nat) : keywords.lookup (Text.decimal n) = none := by
  have letters :
      keywords.all (fun entry => entry.1.all (!·.isDigit)) = true := by
    decide
  rw [Option.eq_none_iff_forall_ne_some]
  intro command found
  have noDigits := List.all_eq_true.mp letters _ (mem_keywords_of_lookup found)
  obtain ⟨c, rest, digits⟩ := List.exists_cons_of_ne_nil (Text.decimal_ne_nil n)
  have digit : c.isDigit = true :=
    Text.isDigit_of_mem_decimal (digits ▸ List.mem_cons_self)
  simp [digits, digit] at noDigits

theorem ofText?_eq_ofWord {c : Char} {rest : Text}
    (solid : Text.trim (c :: rest) = c :: rest) (current : c ≠ 's')
    (all : c ≠ '%') : ofText? (c :: rest) = some (ofWord (c :: rest)) := by
  unfold ofText?
  rw [solid]
  split
  · contradiction
  · rename_i same
    exact absurd (List.cons.inj same).1 current
  · rename_i same
    exact absurd (List.cons.inj same).1 all
  · rfl

theorem ofText?_goToLine {n : Nat} (fits : n ≤ Text.maxWord) :
    ofText? (goToLine n).text = some (goToLine n) := by
  have solid {c : Char} (member : c ∈ Text.decimal n) :
      Unicode.isBlank c = false :=
    Text.isBlank_of_isDigit (Text.isDigit_of_mem_decimal member)
  have trimmed : Text.trim (Text.decimal n) = Text.decimal n :=
    Text.trim_of_solid (fun _ first => solid (List.mem_of_mem_head? first))
      (fun _ last => solid (List.mem_of_getLast? last))
  have word : ofWord (Text.decimal n) = goToLine n := by
    simp only [ofWord, lookup_decimal, Text.word?_decimal fits]
  have digits := @Text.isDigit_of_mem_decimal n
  rw [text, ← word]
  cases number : Text.decimal n with
  | nil => exact absurd number (Text.decimal_ne_nil n)
  | cons c rest =>
      rw [number] at trimmed digits
      have digit : c.isDigit = true := digits List.mem_cons_self
      refine ofText?_eq_ofWord trimmed ?_ ?_
      · rintro rfl
        contradiction
      · rintro rfl
        contradiction

end ExCommand

/-! Substitutions read again from their canonical texts. -/

namespace Substitution

variable {substitution : Substitution}

def segments (substitution : Substitution) : List Text :=
  [substitution.pattern, substitution.replacement,
    if substitution.everywhere then ['g'] else []]

theorem text_eq (substitution : Substitution) :
    substitution.text = (if substitution.allLines then ['%'] else []) ++
      's' :: '/' :: ['/'].intercalate substitution.segments := by
  simp [text, segments, List.intercalate]

theorem Writable.ofBody?_segments (writable : substitution.Writable) :
    ofBody? substitution.allLines (['/'].intercalate substitution.segments) =
      some substitution := by
  have free : ∀ segment ∈ substitution.segments, '/' ∉ segment := by
    simp only [segments, List.forall_mem_cons]
    refine ⟨writable.pattern_free, writable.replacement_free, ?_, by simp⟩
    split <;> simp
  have split := List.splitOn_intercalate '/' free (List.cons_ne_nil _ _)
  have some : substitution.pattern.isEmpty = false := by
    simp [writable.pattern_ne_nil]
  have flag : (if substitution.everywhere then ['g'] else []).contains 'g' =
      substitution.everywhere := by
    cases substitution.everywhere <;> rfl
  unfold ofBody?
  rw [split]
  simp only [segments, some, Bool.false_eq_true, if_false,
    List.headD_cons, flag]

theorem writable_of_ofBody? {allLines : Bool} {body : Text}
    (read : ofBody? allLines body = some substitution) :
    substitution.Writable := by
  unfold ofBody? at read
  split at read
  · rename_i pattern replacement rest cut
    split at read
    · contradiction
    · rename_i nonempty
      cases read
      have free {piece : Text}
          (member : piece ∈ pattern :: replacement :: rest) : '/' ∉ piece :=
        Text.not_mem_of_mem_splitOn (cut ▸ member)
      exact ⟨by simpa using nonempty, free (by simp), free (by simp)⟩
  · contradiction

theorem head?_text (substitution : Substitution) :
    substitution.text.head? =
      some (if substitution.allLines then '%' else 's') := by
  cases all : substitution.allLines <;> simp [text, all]

theorem getLast?_text (substitution : Substitution) :
    substitution.text.getLast? =
      some (if substitution.everywhere then 'g' else '/') := by
  unfold text
  cases substitution.everywhere with
  | false =>
      rw [if_neg Bool.false_ne_true, if_neg Bool.false_ne_true, List.append_nil,
        List.getLast?_concat]
  | true => rw [if_pos rfl, if_pos rfl, List.getLast?_concat]

theorem trim_text (substitution : Substitution) :
    Text.trim substitution.text = substitution.text := by
  refine Text.trim_of_solid (fun c first => ?_) (fun c last => ?_)
  · rw [head?_text] at first
    cases first
    split <;> decide
  · rw [getLast?_text] at last
    cases last
    split <;> decide

end Substitution

namespace ExCommand

theorem ofText?_substitute {substitution : Substitution}
    (writable : substitution.Writable) :
    ofText? (substitute substitution).text =
      some (substitute substitution) := by
  have read := writable.ofBody?_segments
  rw [text, ofText?, substitution.trim_text, substitution.text_eq]
  cases all : substitution.allLines with
  | false =>
      rw [all] at read
      simp [read]
  | true =>
      rw [all] at read
      simp [read]

theorem ofText?_word {typed : Text}
    (read : ofText? typed = some (ofWord (Text.trim typed))) :
    ofText? (ofWord (Text.trim typed)).text =
      some (ofWord (Text.trim typed)) := by
  cases found : keywords.lookup (Text.trim typed) with
  | some command =>
      have word : ofWord (Text.trim typed) = command := by
        simp only [ofWord, found]
      rw [word]
      exact ofText?_keyword (mem_keywords_of_lookup found)
  | none =>
      cases value : Text.word? (Text.trim typed) with
      | some number =>
          have word : ofWord (Text.trim typed) = goToLine number := by
            simp only [ofWord, found, value]
          rw [word]
          exact ofText?_goToLine (Text.le_of_word? value)
      | none =>
          have word : ofWord (Text.trim typed) = unknown (Text.trim typed) := by
            simp only [ofWord, found, value]
          rw [word] at read ⊢
          rw [text, ofText?_trim, read]

/--
The canonical text of a command is read as that command, for each command that
is read from any text, and for each number of 64 bits and each substitution with
a text.
-/
theorem ofText?_text :
    (∀ typed command, ofText? typed = some command →
        ofText? command.text = some command) ∧
      (∀ n, n ≤ Text.maxWord → ofText? (goToLine n).text = some (goToLine n)) ∧
      ∀ substitution : Substitution, substitution.pattern ≠ [] →
        '/' ∉ substitution.pattern →
        '/' ∉ substitution.replacement →
          ofText? (substitute substitution).text =
            some (substitute substitution) := by
  refine ⟨fun typed command read => ?_, fun n fits => ofText?_goToLine fits,
    fun substitution nonempty pattern replacement =>
      ofText?_substitute ⟨nonempty, pattern, replacement⟩⟩
  have again := read
  unfold ofText? at read
  split at read
  · contradiction
  · obtain ⟨substitution, body, rfl⟩ := Option.map_eq_some_iff.mp read
    exact ofText?_substitute (Substitution.writable_of_ofBody? body)
  · obtain ⟨substitution, body, rfl⟩ := Option.map_eq_some_iff.mp read
    exact ofText?_substitute (Substitution.writable_of_ofBody? body)
  · cases read
    exact ofText?_word again

/--
A number with a sign and leading zeros, and a substitution of a text with blanks
around it.
-/
theorem ofText?_text_of_signed_number :
    (ofText? " +007" = some (goToLine 7) ∧
        ofText? (goToLine 7).text = some (goToLine 7)) ∧
      (Text.maxWord ≤ Text.maxWord ∧
        ofText? (goToLine Text.maxWord).text = some (goToLine Text.maxWord)) ∧
      let substitution : Substitution := ⟨" %s ", "q!", true, true⟩
      (substitution.pattern ≠ [] ∧ '/' ∉ substitution.pattern ∧
          '/' ∉ substitution.replacement) ∧
        (substitute substitution).text = "%s/ %s /q!/g".toList ∧
        ofText? (substitute substitution).text =
          some (substitute substitution) := by
  obtain ⟨canonical, numbers, substitutions⟩ := ofText?_text
  have signed : ofText? " +007" = some (goToLine 7) := by decide
  refine ⟨⟨signed, canonical _ _ signed⟩,
    ⟨Nat.le_refl _, numbers _ (Nat.le_refl _)⟩, ?_⟩
  intro substitution
  have pattern : '/' ∉ substitution.pattern := by decide
  have replacement : '/' ∉ substitution.replacement := by decide
  exact ⟨⟨by decide, pattern, replacement⟩, by decide,
    substitutions substitution (by decide) pattern replacement⟩

end ExCommand

end ModalEditing
