/-! # Quoted identifiers

A name becomes an identifier of a statement between double quotes, every double quote of its own written
twice. So any name is an identifier, and an identifier ends only where its name does.

* `unquoteTail?_doubled_append` : a name is read back from its identifier
* `eq_doubled_of_unquoteTail?` : nothing else is read as an identifier -/

namespace TableGateway.Sql

/-- The characters of a name with every double quote written twice. -/
def doubled : List Char → List Char
  | [] => []
  | c :: cs => if c = '"' then '"' :: '"' :: doubled cs else c :: doubled cs

/-- **The identifier of a name.** -/
def quote (name : String) : String := String.ofList ('"' :: doubled name.toList ++ ['"'])

/-- The name up to the closing quote, which has to be the last character. -/
def unquoteTail? : List Char → Option (List Char)
  | [] => none
  | ['"'] => some []
  | '"' :: '"' :: cs => (unquoteTail? cs).map ('"' :: ·)
  | c :: cs => if c = '"' then none else (unquoteTail? cs).map (c :: ·)

/-- **The name of an identifier**, if the text is one. -/
def unquote? (text : String) : Option String :=
  match text.toList with
  | '"' :: cs => (unquoteTail? cs).map String.ofList
  | _ => none

/-- Past the characters of a name the reading goes on with what follows them. -/
theorem unquoteTail?_doubled_append (cs rest : List Char) :
    unquoteTail? (doubled cs ++ rest) = (unquoteTail? rest).map (cs ++ ·) := by
  induction cs with
  | nil => simp [doubled]
  | cons c cs ih =>
    unfold doubled
    split
    · next h =>
      subst h
      rw [List.cons_append, List.cons_append, unquoteTail?, ih, Option.map_map]
      rfl
    · next h =>
      have hstep : unquoteTail? (c :: (doubled cs ++ rest)) =
          (unquoteTail? (doubled cs ++ rest)).map (c :: ·) := by
        rw [unquoteTail?, if_neg h]
        · exact fun hc _ => h hc
        · exact fun _ hc _ => h hc
      rw [List.cons_append, hstep, ih, Option.map_map]
      rfl

theorem eq_doubled_of_unquoteTail? {cs name : List Char} (h : unquoteTail? cs = some name) :
    cs = doubled name ++ ['"'] := by
  fun_induction unquoteTail? cs generalizing name with
  | case1 => cases h
  | case2 => cases h; rfl
  | case3 cs ih =>
    obtain ⟨n, hn, rfl⟩ := Option.map_eq_some_iff.1 h
    simp [doubled, ih hn]
  | case4 => simp_all
  | case5 c cs h1 h2 h3 ih =>
    obtain ⟨n, hn, rfl⟩ := Option.map_eq_some_iff.1 h
    simp [doubled, h3, ih hn]

end TableGateway.Sql
