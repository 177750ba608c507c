/-!
Line endings: a carriage return with a line feed, and a carriage return alone, both read as
a line feed.
-/

namespace StateDescription.LineEnding

def unified : List Char → List Char
  | '\r' :: '\n' :: cs => '\n' :: unified cs
  | '\r' :: cs => '\n' :: unified cs
  | c :: cs => c :: unified cs
  | [] => []

theorem not_mem_unified (cs : List Char) : '\r' ∉ unified cs := by
  fun_induction unified cs with
  | case1 cs ih => simp [ih]
  | case2 cs _ ih => simp [ih]
  | case3 c cs _ differs ih =>
      simp only [List.mem_cons, not_or]
      exact ⟨fun equal => differs equal.symm, ih⟩
  | case4 => simp

end StateDescription.LineEnding
