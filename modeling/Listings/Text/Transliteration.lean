/-!
# Transliteration

An ASCII spelling of arbitrary text, character by character. The table of spellings is a sample of a
larger one: all characters from U+00A0 to U+017F, and some of each of several other scripts. Every
character above ASCII that is not in the sample is spelled `[?]`, which the larger table does with few.

* `Transliteration`: any way to spell texts in ASCII that leaves printable ASCII as it is.
* `listed?`: the spelling of one character.
* `transliterate`: the text up to its first character at or above U+007F is copied, and every later
  character is replaced by its spelling.
* `Transliteration.listed`: this is such a way.
-/

namespace Listings.Text

/-- The spellings of U+00A0 to U+017F, in order. -/
def latinSpellings : List String :=
  [" ", "!", "C/", "PS", "$?", "Y=", "|", "SS", "\"", "(c)", "a", "<<", "!", "", "(r)", "-", "deg",
    "+-", "2", "3", "'", "u", "P", "*", ",", "1", "o", ">>", "1/4", "1/2", "3/4", "?", "A", "A",
    "A", "A", "A", "A", "AE", "C", "E", "E", "E", "E", "I", "I", "I", "I", "D", "N", "O", "O", "O",
    "O", "O", "x", "O", "U", "U", "U", "U", "Y", "Th", "ss", "a", "a", "a", "a", "a", "a", "ae",
    "c", "e", "e", "e", "e", "i", "i", "i", "i", "d", "n", "o", "o", "o", "o", "o", "/", "o", "u",
    "u", "u", "u", "y", "th", "y", "A", "a", "A", "a", "A", "a", "C", "c", "C", "c", "C", "c", "C",
    "c", "D", "d", "D", "d", "E", "e", "E", "e", "E", "e", "E", "e", "E", "e", "G", "g", "G", "g",
    "G", "g", "G", "g", "H", "h", "H", "h", "I", "i", "I", "i", "I", "i", "I", "i", "I", "i", "IJ",
    "ij", "J", "j", "K", "k", "k", "L", "l", "L", "l", "L", "l", "L", "l", "L", "l", "N", "n", "N",
    "n", "N", "n", "'n", "ng", "NG", "O", "o", "O", "o", "O", "o", "OE", "oe", "R", "r", "R", "r",
    "R", "r", "S", "s", "S", "s", "S", "s", "S", "s", "T", "t", "T", "t", "T", "t", "U", "u", "U",
    "u", "U", "u", "U", "u", "U", "u", "U", "u", "W", "w", "Y", "y", "Y", "Z", "z", "Z", "z", "Z",
    "z", "s"]

/-- The spellings of single characters outside that block, a sample of them. -/
def otherSpellings : List (Nat × String) :=
  [(0x80, ""), (0x85, ""), (0x18F, "@"), (0x1C4, "DZ"), (0x1C5, "Dz"), (0x1C6, "dz"), (0x227, "a"),
    (0x2BC, "'"), (0x301, ""), (0x302, ""), (0x3A8, "Ps"), (0x3A9, "O"), (0x3AC, "a"),
    (0x3AE, "e"), (0x3B1, "a"), (0x3B2, "b"), (0x3B3, "g"), (0x3C5, "u"), (0x3C7, "kh"),
    (0x401, "Io"), (0x412, "V"), (0x415, "E"), (0x416, "Zh"), (0x418, "I"), (0x41F, "P"),
    (0x420, "R"), (0x422, "T"), (0x429, "Shch"), (0x430, "a"), (0x432, "v"), (0x435, "e"),
    (0x436, "zh"), (0x438, "i"), (0x43A, "k"), (0x43C, "m"), (0x440, "r"), (0x442, "t"),
    (0x443, "u"), (0x44A, "'"), (0x44C, "'"), (0x44F, "ia"), (0x661, "1"), (0x662, "2"),
    (0x663, "3"), (0x664, "4"), (0x1680, " "), (0x180E, " "), (0x1E9E, "Ss"), (0x2003, " "),
    (0x200B, " "), (0x2013, "-"), (0x2014, "--"), (0x2018, "'"), (0x2019, "'"), (0x201C, "\""),
    (0x201D, "\""), (0x2022, "*"), (0x2026, "..."), (0x2028, "\n"), (0x202F, " "), (0x205F, " "),
    (0x2060, ""), (0x20AC, "EUR"), (0x2116, "No"), (0x2122, "tm"), (0x216B, "XII"),
    (0x2177, "viii"), (0x2460, "1"), (0x2603, "snowman "), (0x2605, "*"), (0x2665, "hearts "),
    (0x2764, "heart"), (0x3000, " "), (0x304C, "ga"), (0x304D, "ki"), (0x3063, "tu"),
    (0x306A, "na"), (0x3072, "hi"), (0x3083, "ya"), (0x3089, "ra"), (0x30A2, "a"), (0x30AB, "ka"),
    (0x30BF, "ta"), (0x30CA, "na"), (0x30CB, "ni"), (0x30E1, "me"), (0x30FC, ""), (0x338F, "kg"),
    (0x4E00, "Yi "), (0x4E2D, "Zhong "), (0x4EAC, "Jing "), (0x5317, "Bei "), (0x56FD, "Guo "),
    (0x5E02, "Shi "), (0x65E5, "Ri "), (0x672C, "Ben "), (0x6771, "Dong "), (0x8A9E, "Yu "),
    (0xAC00, "ga"), (0xAD6D, "gug"), (0xB098, "na"), (0xB2E4, "da"), (0xC11C, "seo"),
    (0xC6B8, "ul"), (0xD55C, "han"), (0xFB00, "ff"), (0xFB01, "fi"), (0xFEFF, ""), (0xFF0C, ","),
    (0xFF15, "5"), (0xFF1A, ":"), (0xFF1D, "="), (0xFF21, "A"), (0xFF22, "B"), (0xFF23, "C"),
    (0xFF41, "a"), (0xFF46, "f"), (0xFF4C, "l"), (0xFF55, "u"), (0x1F600, "grinning ")]

/-- The spelling of one character, where there is one: printable ASCII spells itself and the other
characters below U+0080 have an empty spelling. -/
def listed? (c : Char) : Option String :=
  if c.toNat < 0x20 || c.toNat = 0x7F then some ""
  else if c.toNat < 0x7F then some c.toString
  else if 0xA0 ≤ c.toNat && c.toNat < 0x180 then latinSpellings[c.toNat - 0xA0]?
  else otherSpellings.lookup c.toNat

/-- The spelling of a character that has none. -/
def unknownSpelling : String := "[?]"

/-- The spelling of a character. -/
def spelling (c : Char) : List Char := ((listed? c).getD unknownSpelling).toList

/-- A spelling of several characters that ends in a space keeps it only before a spelling that does
not begin with one. -/
def settle (now : List Char) (next : Option (List Char)) : List Char :=
  if 1 < now.length && now.getLast? == some ' ' then
    match next with
    | none => now.dropLast
    | some following => if following.head? == some ' ' then now.dropLast else now
  else now

/-- The spellings of all the characters, one after the other. -/
def spellAll : List Char → List Char
  | [] => []
  | c :: cs => settle (spelling c) (cs.head?.map spelling) ++ spellAll cs

/-- Whether a character is copied while nothing has been replaced yet. -/
def isPlain (c : Char) : Bool := c.toNat < 0x7F

/-- A way to spell texts in ASCII. What is printable ASCII already is left as it is. -/
structure Transliteration where
  spell : List Char → List Char
  ascii : ∀ cs, ∀ c ∈ spell cs, c.toNat < 0x80
  plain : ∀ cs, (∀ c ∈ cs, isPlain c) → spell cs = cs

/-- The ASCII spelling of a text. -/
def transliterate (cs : List Char) : List Char :=
  cs.takeWhile isPlain ++ spellAll (cs.dropWhile isPlain)

theorem transliterate_of_plain {cs : List Char} (h : ∀ c ∈ cs, isPlain c) :
    transliterate cs = cs := by
  have rest : cs.dropWhile isPlain = [] := by
    induction cs with
    | nil => rfl
    | cons c cs ih => simp_all
  have whole := List.takeWhile_append_dropWhile (p := isPlain) (l := cs)
  rw [rest, List.append_nil] at whole
  simp [transliterate, rest, whole, spellAll]

/-! ## Spellings are ASCII -/

theorem ascii_of_listed {c : Char} {s : String} (h : listed? c = some s) :
    ∀ d ∈ s.toList, d.toNat < 0x80 := by
  have latin : latinSpellings.all (·.toList.all fun d => d.toNat < 0x80) := by decide +kernel
  have other : otherSpellings.all (·.2.toList.all fun d => d.toNat < 0x80) := by decide +kernel
  simp only [List.all_eq_true, decide_eq_true_eq] at latin other
  unfold listed? at h
  split at h
  · cases h
    simp
  · split at h
    · next below =>
      cases h
      intro d hd
      obtain rfl : d = c := by simpa using hd
      omega
    · split at h
      · exact latin s (List.mem_of_getElem? h)
      · obtain ⟨before, after, whole, -⟩ := List.lookup_eq_some_iff.1 h
        exact other (c.toNat, s) (by simp [whole])

theorem ascii_spelling (c : Char) : ∀ d ∈ spelling c, d.toNat < 0x80 := by
  unfold spelling
  cases h : listed? c with
  | none =>
    have plain : unknownSpelling.toList.all fun d => d.toNat < 0x80 := by decide
    exact fun d mem => of_decide_eq_true (List.all_eq_true.1 plain d mem)
  | some s => exact ascii_of_listed h

theorem ascii_settle {now : List Char} (h : ∀ d ∈ now, d.toNat < 0x80) (next : Option (List Char)) :
    ∀ d ∈ settle now next, d.toNat < 0x80 := by
  have dropped : ∀ d ∈ now.dropLast, d.toNat < 0x80 :=
    fun d hd => h d ((List.dropLast_sublist now).subset hd)
  unfold settle
  split
  · split
    · exact dropped
    · split
      · exact dropped
      · exact h
  · exact h

theorem ascii_spellAll (cs : List Char) : ∀ d ∈ spellAll cs, d.toNat < 0x80 := by
  induction cs with
  | nil => nofun
  | cons c cs ih => exact List.forall_mem_append.2 ⟨ascii_settle (ascii_spelling c) _, ih⟩

theorem ascii_transliterate (cs : List Char) : ∀ d ∈ transliterate cs, d.toNat < 0x80 := by
  refine List.forall_mem_append.2 ⟨fun d hd => ?_, ascii_spellAll _⟩
  have plain := List.all_eq_true.1 List.all_takeWhile d hd
  have below : d.toNat < 0x7F := by simpa [isPlain] using plain
  omega

/-- The listed spellings. -/
def Transliteration.listed : Transliteration :=
  ⟨transliterate, ascii_transliterate, fun _ => transliterate_of_plain⟩

end Listings.Text
