/-!
# Quoted texts

A text between single quotes; a quote inside is written twice.  Everything else stands for itself,
line ends included.
-/

namespace Tabula
namespace Text
namespace Quoted

def quote : Char :=
  '\''

/-- A text with every quote written twice. -/
def encode : List Char -> List Char
  | [] => []
  | c :: rest => if c = quote then quote :: quote :: encode rest else c :: encode rest

/-- A text with every pair of quotes read as one. -/
def decode : List Char -> List Char
  | [] => []
  | [c] => [c]
  | c :: d :: rest =>
      if c = quote ∧ d = quote then quote :: decode rest else c :: decode (d :: rest)

/-- What stands before the first quote that is no half of a pair, and what follows that quote. -/
def span : List Char -> Option (List Char × List Char)
  | [] => none
  | [c] => if c = quote then some ([], []) else none
  | c :: d :: rest =>
      if c = quote then
        if d = quote then
          (span rest).map fun (body, after) => (c :: d :: body, after)
        else
          some ([], d :: rest)
      else
        (span (d :: rest)).map fun (body, after) => (c :: body, after)

theorem span_eq {cs body after : List Char} (h : span cs = some (body, after)) :
    cs = body ++ quote :: after := by
  fun_induction span cs generalizing body after with
  | case1 => cases h
  | case2 =>
      cases h
      rfl
  | case3 => cases h
  | case4 rest ih =>
      obtain ⟨⟨b, a⟩, found, same⟩ := Option.map_eq_some_iff.mp h
      cases same
      simp [ih found]
  | case5 =>
      cases h
      rfl
  | case6 c d rest _ ih =>
      obtain ⟨⟨b, a⟩, found, same⟩ := Option.map_eq_some_iff.mp h
      cases same
      simp [ih found]

/-!
# Reading what is written
-/

theorem decode_cons_of_ne {c : Char} (h : c ≠ quote) (cs : List Char) :
    decode (c :: cs) = c :: decode cs := by
  cases cs with
  | nil => rfl
  | cons d rest => rw [decode, if_neg (fun hquotes => h hquotes.1)]

theorem decode_encode (cs : List Char) : decode (encode cs) = cs := by
  induction cs with
  | nil => rfl
  | cons c rest ih =>
      unfold encode
      by_cases hc : c = quote
      · rw [if_pos hc, decode, if_pos ⟨rfl, rfl⟩, ih, hc]
      · rw [if_neg hc, decode_cons_of_ne hc, ih]

theorem span_cons_of_ne {c : Char} (h : c ≠ quote) (cs : List Char) :
    span (c :: cs) = (span cs).map fun (body, after) => (c :: body, after) := by
  cases cs with
  | nil => exact if_neg h
  | cons d rest => rw [span, if_neg h]

/-- A text that was written ends at the quote behind it, unless another quote follows. -/
theorem span_encode (cs : List Char) {after : List Char} (hafter : after.head? ≠ some quote) :
    span (encode cs ++ quote :: after) = some (encode cs, after) := by
  induction cs with
  | nil =>
      cases after with
      | nil => rfl
      | cons d rest =>
          have hd : d ≠ quote := fun hd => hafter (congrArg some hd)
          show span (quote :: d :: rest) = some ([], d :: rest)
          rw [span, if_pos rfl, if_neg hd]
  | cons c rest ih =>
      unfold encode
      by_cases hc : c = quote
      · rw [if_pos hc]
        show span (quote :: quote :: (encode rest ++ quote :: after)) = _
        rw [span, if_pos rfl, if_pos rfl, ih]
        rfl
      · rw [if_neg hc, List.cons_append, span_cons_of_ne hc, ih]
        rfl

/-- Of what was written no quote is left over, so without one behind it a text does not end. -/
theorem span_encode_eq_none (cs : List Char) : span (encode cs) = none := by
  induction cs with
  | nil => rfl
  | cons c rest ih =>
      unfold encode
      by_cases hc : c = quote
      · rw [if_pos hc, span, if_pos rfl, if_pos rfl, ih]
        rfl
      · rw [if_neg hc, span_cons_of_ne hc, ih]
        rfl

end Quoted
end Text
end Tabula
