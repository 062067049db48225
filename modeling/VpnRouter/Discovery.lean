import VpnRouter.Capacity
import Mathlib.Data.List.TakeWhile

/-!
# Interfaces in `/proc/net/dev`

`initial_device` takes the first word of a line for the interface name and
removes a colon at its end.  A counter that follows the colon without a blank
becomes part of the name, so the interfaces are found as they are called exactly
when a blank follows every colon (`discovers_iff`).
-/

namespace VpnRouter

def loName : List Char := ['l', 'o']

def pan0Name : List Char := ['p', 'a', 'n', '0']

def Blank (c : Char) : Prop := c = ' ' ∨ c = '\t'

instance (c : Char) : Decidable (Blank c) := inferInstanceAs (Decidable (_ ∨ _))

/-- A line of one interface. -/
structure ProcLine where
  blanks : List Char
  name : List Char
  counters : List Char
  blank : ∀ c ∈ blanks, Blank c
  nameLength : 1 ≤ name.length ∧ name.length ≤ 13
  namePlain : ∀ c ∈ name, isspace c = false ∧ c ≠ ':' ∧ c ≠ '\x00'
  counter : ∀ c ∈ counters, c.isDigit = true ∨ Blank c
  short : blanks.length + name.length + 1 + counters.length < 511

namespace ProcLine

variable (l : ProcLine)

/-- What follows the colon. -/
def tail : List Char := l.counters ++ ['\n']

def text : List Char := l.blanks ++ l.name ++ ':' :: l.tail

/-- No counter stands directly behind the colon. -/
def Spaced : Prop := ∀ c, l.counters.head? = some c → Blank c

end ProcLine

structure ProcFile where
  header1 : List Char
  header2 : List Char
  lines : List ProcLine
  headersShort : header1.length < 511 ∧ header2.length < 511
  few : lines.length < MAX_DEVICE

namespace ProcFile

variable (f : ProcFile)

def text : List (List Char) := f.header1 :: f.header2 :: f.lines.map ProcLine.text

/-- The interfaces of the file but the two that are left out. -/
def cards : List String :=
  ((f.lines.map (·.name)).filter fun name => name ≠ loName ∧ name ≠ pan0Name).map String.ofList

def kernel (socket : Option (String → IfAnswers)) : Kernel where
  procNetDev := some f.text
  socket := socket

/-- `initial_device` appends the cards to the table and marks none as a tunnel. -/
def Discovers (socket : Option (String → IfAnswers)) (devices : List DeviceItem) : Prop :=
  (initialDeviceOn (f.kernel socket) devices).map (fun d => (d.interface, d.vpn)) =
    devices.map (fun d => (d.interface, d.vpn)) ++ f.cards.map fun name => (name, 0)

end ProcFile

/-! ## One line -/

theorem Blank.isspace {c : Char} (h : Blank c) : isspace c = true := by
  rcases h with rfl | rfl <;> rfl

theorem isspace_of_isDigit {c : Char} (h : c.isDigit = true) : isspace c = false := by
  have hlow : 48 ≤ c.toNat := by
    rw [Char.isDigit, Bool.and_eq_true, decide_eq_true_eq] at h
    exact UInt32.le_iff_toNat_le.mp h.1
  simp only [isspace, Bool.or_eq_false_iff, Bool.and_eq_false_iff, beq_eq_false_iff_ne,
    decide_eq_false_iff_not]
  omega

section Line

variable {l : ProcLine}

theorem scanWord_text :
    scanWord l.text = l.name ++ ':' :: l.tail.takeWhile fun c => !isspace c := by
  have hblanks : ∀ c ∈ l.blanks, isspace c = true := fun c hc => (l.blank c hc).isspace
  have hname : ∀ c ∈ l.name, (!isspace c) = true := by
    intro c hc
    rw [(l.namePlain c hc).1]
    rfl
  have hstart : (l.name ++ ':' :: l.tail).dropWhile isspace = l.name ++ ':' :: l.tail := by
    cases hl : l.name with
    | nil =>
        have hlength := l.nameLength.1
        rw [hl] at hlength
        exact absurd hlength (by decide)
    | cons c cs =>
        have hc := (l.namePlain c (by rw [hl]; exact List.mem_cons_self)).1
        rw [List.cons_append, List.dropWhile_cons_of_neg (by rw [hc]; exact Bool.false_ne_true)]
  rw [scanWord, ProcLine.text, List.append_assoc, List.dropWhile_append_of_pos hblanks, hstart,
    List.takeWhile_append_of_pos hname, List.takeWhile_cons_of_pos rfl]

theorem colon_not_mem_name : ':' ∉ l.name := fun h => (l.namePlain ':' h).2.1 rfl

/-- The entry that a line should give. -/
def ProcLine.card (l : ProcLine) : Option String :=
  if l.name = loName ∨ l.name = pan0Name then none else some (String.ofList l.name)

theorem cardOfLine_spaced (h : l.Spaced) : cardOfLine l.text = l.card := by
  have htail : (l.tail.takeWhile fun c => !isspace c) = [] := by
    rw [ProcLine.tail]
    cases hc : l.counters with
    | nil => rfl
    | cons c cs =>
        have hblank : isspace c = true := (h c (by rw [hc]; rfl)).isspace
        rw [List.cons_append, List.takeWhile_cons_of_neg (by rw [hblank]; decide)]
  have hne : l.name ++ [':'] ≠ [] := List.append_ne_nil_of_right_ne_nil _ (List.cons_ne_nil _ _)
  rw [cardOfLine, scanWord_text, htail, if_neg hne, List.getLast?_concat, if_pos rfl,
    List.dropLast_concat]
  rfl

theorem isDigit_of_mem_word {c : Char} (h : c ∈ l.tail.takeWhile fun c => !isspace c) :
    c.isDigit = true := by
  have hspace := List.mem_takeWhile_imp (p := fun c => !isspace c) h
  rcases List.mem_append.mp (List.takeWhile_subset _ h) with hcounter | hnewline
  · rcases l.counter c hcounter with hdigit | hblank
    · exact hdigit
    · simp [hblank.isspace] at hspace
  · rw [List.mem_singleton.mp hnewline] at hspace
    exact absurd hspace (by decide)

theorem exists_word_of_not_spaced (h : ¬ l.Spaced) :
    ∃ w d, (l.tail.takeWhile fun c => !isspace c) = w ++ [d] := by
  have hne : (l.tail.takeWhile fun c => !isspace c) ≠ [] := by
    intro hnil
    apply h
    intro c hc
    obtain ⟨cs, hcs⟩ : ∃ cs, l.counters = c :: cs := by
      simpa [List.head?_eq_some_iff] using hc
    rcases l.counter c (by rw [hcs]; exact List.mem_cons_self) with hdigit | hblank
    · have hspace := isspace_of_isDigit hdigit
      rw [ProcLine.tail, hcs, List.cons_append, List.takeWhile_cons_of_pos (by rw [hspace]; rfl)]
        at hnil
      exact absurd hnil (List.cons_ne_nil _ _)
    · exact hblank
  exact ⟨_, _, (List.dropLast_append_getLast hne).symm⟩

/-- A counter that ends the first word is taken for the end of the name. -/
theorem cardOfLine_not_spaced (h : ¬ l.Spaced) :
    ∃ name : List Char, cardOfLine l.text = some (String.ofList name) ∧ ':' ∈ name := by
  obtain ⟨w, d, hw⟩ := exists_word_of_not_spaced h
  have hdigit : d.isDigit = true := isDigit_of_mem_word (by rw [hw]; simp)
  have hword : scanWord l.text = (l.name ++ ':' :: w) ++ [d] := by
    rw [scanWord_text, hw, List.append_assoc, List.cons_append]
  have hcolon : ':' ∈ (l.name ++ ':' :: w) ++ [d] := by simp
  have hlast : ¬ some d = some ':' := by
    intro hd
    rw [Option.some.inj hd] at hdigit
    exact absurd hdigit (by decide)
  have hkept (name : List Char) (hname : ':' ∉ name) : (l.name ++ ':' :: w) ++ [d] ≠ name := by
    intro heq
    exact hname (heq ▸ hcolon)
  refine ⟨(l.name ++ ':' :: w) ++ [d], ?_, hcolon⟩
  rw [cardOfLine, hword, if_neg (hkept [] (by decide)), List.getLast?_concat, if_neg hlast,
    if_neg (not_or.mpr ⟨hkept ['l', 'o'] (by decide), hkept ['p', 'a', 'n', '0'] (by decide)⟩)]

theorem card_plain {name : String} (h : l.card = some name) : ':' ∉ name.toList := by
  rw [ProcLine.card] at h
  split at h
  · cases h
  · rw [← Option.some.inj h, String.toList_ofList]
    exact colon_not_mem_name

end Line

/-! ## The table -/

theorem names_initialDeviceOn (k : Kernel) (devices : List DeviceItem) :
    (initialDeviceOn k devices).map (fun d => (d.interface, d.vpn)) =
      devices.map (fun d => (d.interface, d.vpn)) ++
        (cardsOf k).map fun d => (d.interface, d.vpn) := by
  unfold initialDeviceOn
  split
  · rw [names_initialDeviceMacGetway, List.map_append]
  · rw [List.map_append]

namespace ProcFile

variable (f : ProcFile)

theorem cards_eq : f.cards = f.lines.filterMap ProcLine.card := by
  unfold cards
  induction f.lines with
  | nil => rfl
  | cons l lines ih =>
      rw [List.map_cons, List.filter_cons, List.filterMap_cons, ProcLine.card]
      by_cases hname : l.name = loName ∨ l.name = pan0Name
      · rw [if_pos hname, if_neg (by simpa [or_iff_not_imp_left] using hname), ih]
      · rw [if_neg hname, if_pos (by simpa using hname), List.map_cons, ih]

theorem names_cardsOf (socket : Option (String → IfAnswers)) :
    (cardsOf (f.kernel socket)).map (fun d => (d.interface, d.vpn)) =
      (f.lines.filterMap fun l => cardOfLine l.text).map fun name => (name, 0) := by
  simp only [cardsOf, kernel, text, List.drop_succ_cons, List.drop_zero, List.filterMap_map,
    List.map_map]
  rfl

end ProcFile

/-- The cards are found as they are called exactly when no counter stands directly
behind the colon of its line. -/
theorem discovers_iff (f : ProcFile) (socket : Option (String → IfAnswers))
    (devices : List DeviceItem) : f.Discovers socket devices ↔ ∀ l ∈ f.lines, l.Spaced := by
  rw [ProcFile.Discovers, names_initialDeviceOn, f.names_cardsOf, f.cards_eq,
    List.append_right_inj]
  constructor
  · intro h l hl
    by_contra hspaced
    obtain ⟨name, hcard, hcolon⟩ := cardOfLine_not_spaced hspaced
    have hfound : (String.ofList name, (0 : Int)) ∈
        (f.lines.filterMap ProcLine.card).map fun name => (name, (0 : Int)) := by
      rw [← h]
      exact List.mem_map_of_mem (List.mem_filterMap.mpr ⟨l, hl, hcard⟩)
    obtain ⟨card, hmem, heq⟩ := List.mem_map.mp hfound
    obtain ⟨l', -, hcard'⟩ := List.mem_filterMap.mp hmem
    have hplain := card_plain hcard'
    rw [(Prod.mk.inj heq).1, String.toList_ofList] at hplain
    exact hplain hcolon
  · intro h
    rw [List.filterMap_congr fun l hl => cardOfLine_spaced (h l hl)]

/-- A line as `eth4:1 0`. -/
def tightLine : ProcLine where
  blanks := [' ']
  name := ['e', 't', 'h', '4']
  counters := ['1', ' ', '0']
  blank := by simp [Blank]
  nameLength := by decide
  namePlain := by simp [isspace]
  counter := by simp [Blank]
  short := by decide

def tightFile : ProcFile where
  header1 := []
  header2 := []
  lines := [tightLine]
  headersShort := by decide
  few := by decide

theorem tight_line_misread : ¬ tightFile.Discovers none [] := by
  unfold ProcFile.Discovers
  decide

end VpnRouter
