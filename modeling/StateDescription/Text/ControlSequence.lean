/-!
Terminal control sequences, the escape character and `[` followed by parameter characters,
intermediate characters and one final character. Text that goes to no terminal is freed of
them.
-/

namespace StateDescription.ControlSequence

def isParameter (c : Char) : Bool :=
  '0' ≤ c && c ≤ '?'

def isIntermediate (c : Char) : Bool :=
  ' ' ≤ c && c ≤ '/'

def isFinal (c : Char) : Bool :=
  '@' ≤ c && c ≤ '~'

/-- What follows the control sequence at the head of a text, if there is one. -/
def rest? : List Char → Option (List Char)
  | '\x1b' :: '[' :: cs =>
    match (cs.dropWhile isParameter).dropWhile isIntermediate with
    | final :: rest => if isFinal final then some rest else none
    | [] => none
  | _ => none

theorem length_dropWhile_le (p : Char → Bool) (cs : List Char) :
    (cs.dropWhile p).length ≤ cs.length :=
  (List.dropWhile_sublist p).length_le

theorem length_lt_of_rest? {cs rest : List Char} (h : rest? cs = some rest) :
    rest.length < cs.length := by
  unfold rest? at h
  split at h
  · rename_i tail
    split at h
    · rename_i final after shape
      split at h
      · obtain rfl := Option.some.inj h
        have shorter := congrArg List.length shape
        have parameters := length_dropWhile_le isParameter tail
        have intermediates := length_dropWhile_le isIntermediate (tail.dropWhile isParameter)
        simp only [List.length_cons] at shorter ⊢
        omega
      · cases h
    · cases h
  · cases h

def stripped : List Char → List Char
  | [] => []
  | c :: cs =>
    match _h : rest? (c :: cs) with
    | some rest => stripped rest
    | none => c :: stripped cs
termination_by cs => cs.length
decreasing_by
  · exact length_lt_of_rest? _h
  · simp

theorem stripped_of_not_mem {cs : List Char} (h : '\x1b' ∉ cs) : stripped cs = cs := by
  induction cs with
  | nil => simp [stripped]
  | cons c cs ih =>
      have absent : rest? (c :: cs) = none := by
        unfold rest?
        split
        · simp_all
        · rfl
      rw [stripped]
      split
      · simp_all
      · rw [ih (fun member => h (List.mem_cons_of_mem _ member))]

end StateDescription.ControlSequence
