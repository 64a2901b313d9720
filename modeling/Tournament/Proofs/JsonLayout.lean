import Tournament.Json.Reader

/-!
# Layouts of JSON texts

Both printers leave the same text apart from blanks.  A layout says where blanks stand, and
`printIn` prints in any layout; a value without blanks is printed in the layout `tight`
(`printIn_tight`), and one on several lines in the layout `lines` (`printIn_lines`).
-/

namespace Tournament.Json

/-- How a value is set out: the blanks before an element, a member and a closing bracket, by depth,
and the blanks after a colon. -/
structure Layout where
  gap : Nat → List Char
  space : List Char
  isSpace_gap : ∀ depth, ∀ c ∈ gap depth, isSpace c = true
  isSpace_space : ∀ c ∈ space, isSpace c = true

def Layout.tight : Layout where
  gap _ := []
  space := []
  isSpace_gap := by simp
  isSpace_space := by simp

def Layout.lines : Layout where
  gap := newline
  space := [' ']
  isSpace_gap := by
    intro depth c hc
    rcases List.mem_cons.mp hc with rfl | hc
    · rfl
    · rw [List.eq_of_mem_replicate hc]
      rfl
  isSpace_space := by simp [isSpace]

mutual

def printIn (l : Layout) (depth : Nat) : Json → List Char
  | .list [] => ['[', ']']
  | .list elements => '[' :: (elementsIn l (depth + 1) elements ++ l.gap depth ++ [']'])
  | .object [] => ['{', '}']
  | .object members => '{' :: (membersIn l (depth + 1) members ++ l.gap depth ++ ['}'])
  | v => print v

def elementsIn (l : Layout) (depth : Nat) : List Json → List Char
  | [] => []
  | [v] => l.gap depth ++ printIn l depth v
  | v :: vs => l.gap depth ++ printIn l depth v ++ ',' :: elementsIn l depth vs

def membersIn (l : Layout) (depth : Nat) : List (Option String × Json) → List Char
  | [] => []
  | [(name, v)] => l.gap depth ++ printName name ++ ':' :: l.space ++ printIn l depth v
  | (name, v) :: rest =>
    l.gap depth ++ printName name ++ ':' :: l.space ++ printIn l depth v ++
      ',' :: membersIn l depth rest

end

theorem printIn_null (l : Layout) (depth : Nat) : printIn l depth .null = ['n', 'u', 'l', 'l'] := by
  rw [printIn, print] <;> nofun

theorem printIn_bool (l : Layout) (depth : Nat) (b : Bool) :
    printIn l depth (.bool b) = print (.bool b) := by
  rw [printIn] <;> nofun

theorem printIn_number (l : Layout) (depth : Nat) (literal : List Char) :
    printIn l depth (.number literal) = literal := by
  rw [printIn, print] <;> nofun

theorem printIn_text (l : Layout) (depth : Nat) (s : String) :
    printIn l depth (.text s) = printText s := by
  rw [printIn, print] <;> nofun

theorem printIn_list_cons (l : Layout) (depth : Nat) (v : Json) (vs : List Json) :
    printIn l depth (.list (v :: vs)) =
      '[' :: (elementsIn l (depth + 1) (v :: vs) ++ l.gap depth ++ [']']) := by
  rw [printIn]
  nofun

theorem printIn_object_cons (l : Layout) (depth : Nat) (m : Option String × Json)
    (ms : List (Option String × Json)) :
    printIn l depth (.object (m :: ms)) =
      '{' :: (membersIn l (depth + 1) (m :: ms) ++ l.gap depth ++ ['}']) := by
  rw [printIn]
  nofun

theorem elementsIn_cons_cons (l : Layout) (depth : Nat) (v w : Json) (vs : List Json) :
    elementsIn l depth (v :: w :: vs) =
      l.gap depth ++ printIn l depth v ++ ',' :: elementsIn l depth (w :: vs) := by
  rw [elementsIn]
  nofun

theorem membersIn_cons_cons (l : Layout) (depth : Nat) (name : Option String) (v : Json)
    (m : Option String × Json) (ms : List (Option String × Json)) :
    membersIn l depth ((name, v) :: m :: ms) =
      l.gap depth ++ printName name ++ ':' :: l.space ++ printIn l depth v ++
        ',' :: membersIn l depth (m :: ms) := by
  rw [membersIn]
  nofun

/-! ## The two printers -/

mutual

theorem printIn_tight (depth : Nat) (v : Json) : printIn .tight depth v = print v := by
  match v with
  | .null | .bool _ | .number _ | .text _ | .brokenText => rw [printIn] <;> nofun
  | .list [] => rw [printIn, print, printElements]; rfl
  | .list (v :: vs) => rw [printIn_list_cons, elementsIn_tight, print]; simp [Layout.tight]
  | .object [] => rw [printIn, print, printMembers]; rfl
  | .object (m :: ms) => rw [printIn_object_cons, membersIn_tight, print]; simp [Layout.tight]

theorem elementsIn_tight (depth : Nat) (vs : List Json) :
    elementsIn .tight depth vs = printElements vs := by
  match vs with
  | [] => rw [elementsIn, printElements]
  | [v] => rw [elementsIn, printIn_tight, printElements]; rfl
  | v :: w :: vs =>
    rw [elementsIn_cons_cons, printIn_tight, elementsIn_tight, printElements.eq_3 v]
    · rfl
    · nofun

theorem membersIn_tight (depth : Nat) (ms : List (Option String × Json)) :
    membersIn .tight depth ms = printMembers ms := by
  match ms with
  | [] => rw [membersIn, printMembers]
  | [(name, v)] => rw [membersIn, printIn_tight, printMembers]; simp [Layout.tight]
  | (name, v) :: m :: ms =>
    rw [membersIn_cons_cons, printIn_tight, membersIn_tight, printMembers.eq_3 name v]
    · simp [Layout.tight]
    · nofun

end

mutual

theorem printIn_lines (depth : Nat) (v : Json) : printIn .lines depth v = printPretty depth v := by
  match v with
  | .null | .bool _ | .number _ | .text _ | .brokenText => rw [printIn, printPretty] <;> nofun
  | .list [] | .object [] => rw [printIn, printPretty]
  | .list (v :: vs) =>
    rw [printIn_list_cons, elementsIn_lines, printPretty]
    · rfl
    · nofun
  | .object (m :: ms) =>
    rw [printIn_object_cons, membersIn_lines, printPretty]
    · rfl
    · nofun

theorem elementsIn_lines (depth : Nat) (vs : List Json) :
    elementsIn .lines depth vs = prettyElements depth vs := by
  match vs with
  | [] => rw [elementsIn, prettyElements]
  | [v] => rw [elementsIn, printIn_lines, prettyElements]; rfl
  | v :: w :: vs =>
    rw [elementsIn_cons_cons, printIn_lines, elementsIn_lines, prettyElements.eq_3 depth v]
    · rfl
    · nofun

theorem membersIn_lines (depth : Nat) (ms : List (Option String × Json)) :
    membersIn .lines depth ms = prettyMembers depth ms := by
  match ms with
  | [] => rw [membersIn, prettyMembers]
  | [(name, v)] => rw [membersIn, printIn_lines, prettyMembers]; simp [Layout.lines]
  | (name, v) :: m :: ms =>
    rw [membersIn_cons_cons, printIn_lines, membersIn_lines, prettyMembers.eq_3 depth name v]
    · simp [Layout.lines]
    · nofun

end

end Tournament.Json
