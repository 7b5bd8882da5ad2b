import Mathlib.Data.List.Basic

/-!
# Codes of one or two letters

Some letters lead a code of two letters, every other letter is a code by itself.  A list of
letters is read as codes from its front; a lead may be left over at its end.
-/

namespace Foundation

variable {α : Type*}

/-- A letter by itself, or a lead with the letter that follows it. -/
inductive WideCode (α : Type*) where
  | short (letter : α)
  | wide (lead follow : α)
  deriving DecidableEq

namespace WideCode

/-- The letters of a code. -/
def letters : WideCode α -> List α
  | short letter => [letter]
  | wide lead follow => [lead, follow]

/-- A code as it is read: the leads begin the codes of two letters and no others. -/
def IsProper (isLead : α -> Bool) : WideCode α -> Prop
  | short letter => isLead letter = false
  | wide lead _ => isLead lead = true

/-- The letters of the codes one after the other. -/
def spell (codes : List (WideCode α)) : List α := codes.flatMap letters

@[simp] theorem spell_nil : spell ([] : List (WideCode α)) = [] := rfl

@[simp] theorem spell_cons (code : WideCode α) (codes : List (WideCode α)) :
    spell (code :: codes) = code.letters ++ spell codes := rfl

@[simp] theorem spell_append (first second : List (WideCode α)) :
    spell (first ++ second) = spell first ++ spell second :=
  List.flatMap_append

/-- The codes of a list of letters, and the lead that is left over at its end. -/
def read (isLead : α -> Bool) : List α -> List (WideCode α) × List α
  | [] => ([], [])
  | [letter] => if isLead letter then ([], [letter]) else ([short letter], [])
  | letter :: next :: rest =>
      if isLead letter then
        (wide letter next :: (read isLead rest).1, (read isLead rest).2)
      else (short letter :: (read isLead (next :: rest)).1, (read isLead (next :: rest)).2)

theorem spell_read (isLead : α -> Bool) (list : List α) :
    spell (read isLead list).1 ++ (read isLead list).2 = list := by
  induction list using read.induct isLead with
  | case1 => rfl
  | case2 letter leads => simp [read, leads]
  | case3 letter leads => simp [read, leads, letters]
  | case4 _ _ _ leads ih | case5 _ _ _ leads ih => simp [read, leads, letters, ih]

theorem isProper_of_mem_read (isLead : α -> Bool) (list : List α) :
    ∀ code ∈ (read isLead list).1, code.IsProper isLead := by
  induction list using read.induct isLead with
  | case1 => simp [read]
  | case2 letter leads => simp [read, leads]
  | case3 letter leads => simp [read, leads, IsProper]
  | case4 _ _ _ leads ih | case5 _ _ _ leads ih => simpa [read, leads, IsProper] using ih

theorem read_rest (isLead : α -> Bool) (list : List α) :
    (read isLead list).2 = [] ∨ ∃ lead, isLead lead = true ∧ (read isLead list).2 = [lead] := by
  induction list using read.induct isLead with
  | case1 => exact .inl rfl
  | case2 letter leads => exact .inr ⟨letter, leads, by simp [read, leads]⟩
  | case3 letter leads => exact .inl (by simp [read, leads])
  | case4 _ _ _ leads ih | case5 _ _ _ leads ih => simpa [read, leads] using ih

theorem read_spell {isLead : α -> Bool} {codes : List (WideCode α)}
    (proper : ∀ code ∈ codes, code.IsProper isLead) : read isLead (spell codes) = (codes, []) := by
  induction codes with
  | nil => rfl
  | cons code codes ih =>
    have isProper := proper code List.mem_cons_self
    have restRead := ih fun other mem => proper other (List.mem_cons_of_mem code mem)
    cases code with
    | short letter =>
      have noLead : isLead letter = false := isProper
      rw [spell_cons]
      cases rest : spell codes with
      | nil =>
        rw [rest] at restRead
        have noCodes : codes = [] := (congrArg Prod.fst restRead).symm
        simp [letters, read, noLead, noCodes]
      | cons next others =>
        rw [rest] at restRead
        simp [letters, read, noLead, restRead]
    | wide lead follow =>
      have leads : isLead lead = true := isProper
      simp [letters, read, leads, restRead]

end WideCode

end Foundation
