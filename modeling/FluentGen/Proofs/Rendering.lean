import FluentGen.Proofs.TypeParts
/-!
# Texts of references

The text of a reference tells it apart from every other one, but for the kinds of what are no arrays.
A text is read from its end: the last character says whether the reference is annotated, an array, or
applied to arguments, and what is left is a name behind its namespace.

## Main definitions
* `TypeRef.WellSpelled`: a reference whose names have no characters with a meaning of their own.
* `TypeRef.unkinded`: a reference without the kinds that its text leaves out.
* `TypeRef.backwards`: the characters of a text from the last to the first.

## Main statements
* `TypeRef.unkinded_eq_of_display_eq`: well-spelled references of one text are the same up to kinds.
* `TypeRef.eq_of_display_eq`: they are equal if references of one key are of one kind.
-/
namespace FluentGen

namespace TypeRef

/-- The characters with a meaning of their own in the text of a reference, other than the dot. -/
def marks : List Char := ['<', '>', ',', ' ', '[', ']', '?']

/-- Whether a text has none of these characters. -/
def Unmarked (text : String) : Prop :=
  ∀ c ∈ text.toList, c ∉ marks

instance (text : String) : Decidable (Unmarked text) :=
  List.decidableBAll _ _

/-- Whether a part is an array of one element, or else has a proper name and namespace. -/
def IsSpelled (part : TypeRef) : Prop :=
  if part.kind = .arrayType then
    part.name = "" ∧ part.qualifier = none ∧ part.arguments.length = 1
  else
    part.name ≠ "" ∧ (Unmarked part.name ∧ '.' ∉ part.name.toList) ∧
      ∀ qualifier ∈ part.qualifier, Unmarked qualifier

instance (part : TypeRef) : Decidable part.IsSpelled := by
  unfold IsSpelled
  infer_instance

/-- Whether all names and namespaces in a reference are proper ones. -/
def WellSpelled : TypeRef → Prop :=
  Everywhere IsSpelled

instance (type : TypeRef) : Decidable type.WellSpelled :=
  inferInstanceAs (Decidable (Everywhere _ type))

mutual
/-- The reference with all parts classes but arrays. -/
def unkinded : TypeRef → TypeRef
  | ⟨name, qualifier, kind, arguments, nullable⟩ =>
    ⟨name, qualifier, if kind = .arrayType then .arrayType else .classType, unkindedAll arguments,
      nullable⟩
/-- The references of a list with all parts classes but arrays. -/
def unkindedAll : List TypeRef → List TypeRef
  | [] => []
  | type :: types => type.unkinded :: unkindedAll types
end

theorem unkindedAll_eq_map (types : List TypeRef) : unkindedAll types = types.map unkinded := by
  induction types with
  | nil => rfl
  | cons type types ih => rw [unkindedAll, ih, List.map_cons]

theorem unkinded_eq (type : TypeRef) : type.unkinded =
    { type with
      kind := if type.kind = .arrayType then .arrayType else .classType
      arguments := type.arguments.map unkinded } := by
  obtain ⟨name, qualifier, kind, arguments, nullable⟩ := type
  rw [unkinded, unkindedAll_eq_map]

/-! ## Texts from the end -/

/-- The characters of the text, from the last to the first. -/
def backwards (type : TypeRef) : List Char :=
  type.display.toList.reverse

/-- The characters of a namespace with the dot after it, from the last to the first. -/
def qualifierBackwards : Option String → List Char
  | none => []
  | some qualifier => '.' :: qualifier.toList.reverse

/-- The characters of the name and of the namespace in front of it, from the last to the first. -/
def wordBackwards (type : TypeRef) : List Char :=
  type.name.toList.reverse ++ qualifierBackwards type.qualifier

variable {type : TypeRef}

/-- The annotation comes last. -/
theorem backwards_eq (type : TypeRef) :
    type.backwards = (if type.nullable then ['?'] else []) ++ type.bare.backwards := by
  obtain ⟨name, qualifier, kind, arguments, nullable⟩ := type
  cases nullable with
  | false => rfl
  | true => cases kind <;> cases arguments <;> simp [backwards, display, render, bare]

theorem backwards_array {element : TypeRef} {others : List TypeRef} (array : type.kind = .arrayType)
    (arguments : type.arguments = element :: others) :
    type.bare.backwards = ']' :: '[' :: element.backwards := by
  obtain ⟨name, qualifier, kind, _, nullable⟩ := type
  obtain rfl : kind = .arrayType := array
  cases arguments
  simp [backwards, display, render, bare]

theorem backwards_plain (arguments : type.arguments = []) :
    type.bare.backwards = type.wordBackwards := by
  obtain ⟨name, qualifier, kind, _, nullable⟩ := type
  cases arguments
  cases kind <;> cases qualifier <;>
    simp [backwards, display, render, bare, wordBackwards, qualifierBackwards]

theorem backwards_others (types : List TypeRef) :
    (renderOthers .full types).toList.reverse =
      types.reverse.flatMap fun type => type.backwards ++ [' ', ','] := by
  induction types with
  | nil => rfl
  | cons type types ih => simp [renderOthers, ih, backwards, display]

theorem backwards_applied {first : TypeRef} {others : List TypeRef}
    (plain : type.kind ≠ .arrayType) (arguments : type.arguments = first :: others) :
    type.bare.backwards = '>' :: ((others.reverse.flatMap fun type => type.backwards ++ [' ', ',']) ++
      (first.backwards ++ '<' :: type.wordBackwards)) := by
  obtain ⟨name, qualifier, kind, _, nullable⟩ := type
  cases arguments
  rw [← backwards_others]
  cases kind with
  | arrayType => exact absurd rfl plain
  | _ =>
    cases qualifier <;>
      simp [backwards, display, render, bare, wordBackwards, qualifierBackwards]

/-! ## Reading back -/

/-- Whether a text ends or goes on with what stands in front of an argument. -/
def Delimits (rest : List Char) : Prop :=
  ∀ c ∈ rest.head?, c = ' ' ∨ c = '<'

/-- What stops at the same characters is the same. -/
theorem eq_of_append_eq {stops : Char → Prop} {word word' rest rest' : List Char}
    (h : ∀ c ∈ word, ¬ stops c) (h' : ∀ c ∈ word', ¬ stops c) (hrest : ∀ c ∈ rest.head?, stops c)
    (hrest' : ∀ c ∈ rest'.head?, stops c) (same : word ++ rest = word' ++ rest') :
    word = word' ∧ rest = rest' := by
  induction word generalizing word' with
  | nil =>
    cases word' with
    | nil => exact ⟨rfl, same⟩
    | cons c word' =>
      obtain rfl : rest = c :: (word' ++ rest') := same
      exact absurd (hrest c rfl) (h' c List.mem_cons_self)
  | cons c word ih =>
    cases word' with
    | nil =>
      obtain rfl : c :: (word ++ rest) = rest' := same
      exact absurd (hrest' c rfl) (h c List.mem_cons_self)
    | cons c' word' =>
      obtain ⟨rfl, tails⟩ := List.cons.inj same
      have split := ih (fun d hd => h d (.tail _ hd)) (fun d hd => h' d (.tail _ hd)) tails
      exact ⟨congrArg _ split.1, split.2⟩

theorem notMem_marks_of_mem_wordBackwards (spelled : type.IsSpelled)
    (plain : type.kind ≠ .arrayType) {c : Char} (h : c ∈ type.wordBackwards) : c ∉ marks := by
  rw [IsSpelled, if_neg plain] at spelled
  obtain ⟨-, name, qualifier⟩ := spelled
  obtain h | h := List.mem_append.mp h
  · exact name.1 c (List.mem_reverse.mp h)
  · cases found : type.qualifier with
    | none =>
      rw [found] at h
      cases h
    | some written =>
      rw [found] at h
      obtain rfl | h := List.mem_cons.mp h
      · decide
      · exact qualifier written found c (List.mem_reverse.mp h)

theorem eq_dot_of_mem_head?_qualifierBackwards {qualifier : Option String} {c : Char}
    (h : c ∈ (qualifierBackwards qualifier).head?) : c = '.' := by
  cases qualifier with
  | none => cases h
  | some => exact (Option.some.inj h).symm

theorem qualifierBackwards_injective {qualifier qualifier' : Option String}
    (same : qualifierBackwards qualifier = qualifierBackwards qualifier') :
    qualifier = qualifier' := by
  cases qualifier <;> cases qualifier'
  case none.none => rfl
  case none.some | some.none => cases same
  case some.some =>
    have reversed := (List.cons.inj same).2
    exact congrArg some (String.toList_inj.mp (List.reverse_inj.mp reversed))

/-- A name and its namespace are told by the text up to a delimiter. -/
theorem eq_of_wordBackwards_append_eq {a b : TypeRef} (ha : a.IsSpelled) (hb : b.IsSpelled)
    (plain : a.kind ≠ .arrayType) (plain' : b.kind ≠ .arrayType) {rest rest' : List Char}
    (hrest : Delimits rest) (hrest' : Delimits rest')
    (same : a.wordBackwards ++ rest = b.wordBackwards ++ rest') :
    (a.name = b.name ∧ a.qualifier = b.qualifier) ∧ rest = rest' := by
  have unmarked : ∀ c, c ∉ marks → ¬ (c = ' ' ∨ c = '<') := by
    rintro c h (rfl | rfl) <;> exact h (by decide)
  obtain ⟨word, rfl⟩ := eq_of_append_eq
    (fun c h => unmarked c (notMem_marks_of_mem_wordBackwards ha plain h))
    (fun c h => unmarked c (notMem_marks_of_mem_wordBackwards hb plain' h)) hrest hrest' same
  rw [IsSpelled, if_neg plain] at ha
  rw [IsSpelled, if_neg plain'] at hb
  -- Names have no dots, so the last dot is that after the namespace.
  have dotless : ∀ name : String, '.' ∉ name.toList → ∀ c ∈ name.toList.reverse, ¬ c = '.' := by
    rintro name h _ hc rfl
    exact h (List.mem_reverse.mp hc)
  obtain ⟨name, qualifier⟩ := eq_of_append_eq (dotless _ ha.2.1.2) (dotless _ hb.2.1.2)
    (fun _ => eq_dot_of_mem_head?_qualifierBackwards)
    (fun _ => eq_dot_of_mem_head?_qualifierBackwards) word
  exact ⟨⟨String.toList_inj.mp (List.reverse_inj.mp name), qualifierBackwards_injective qualifier⟩,
    rfl⟩

/-- The first character from the end says what a reference without an annotation is. -/
theorem exists_backwards_eq_cons (spelled : type.IsSpelled) : ∃ c rest,
    type.bare.backwards = c :: rest ∧
      (c = ']' ∧ type.kind = .arrayType ∧ type.arguments ≠ [] ∨
        c = '>' ∧ type.kind ≠ .arrayType ∧ type.arguments ≠ [] ∨
        c ∉ marks ∧ type.kind ≠ .arrayType ∧ type.arguments = []) := by
  by_cases array : type.kind = .arrayType
  · rw [IsSpelled, if_pos array] at spelled
    obtain ⟨element, arguments⟩ := List.length_eq_one_iff.mp spelled.2.2
    exact ⟨_, _, backwards_array array arguments, .inl ⟨rfl, array, by simp [arguments]⟩⟩
  · cases arguments : type.arguments with
    | cons first others =>
      exact ⟨_, _, backwards_applied array arguments, .inr (.inl ⟨rfl, array, by simp⟩)⟩
    | nil =>
      have unmarked := fun c => notMem_marks_of_mem_wordBackwards spelled array (c := c)
      rw [IsSpelled, if_neg array] at spelled
      rw [backwards_plain arguments]
      cases word : type.wordBackwards with
      | nil =>
        have empty := (List.append_eq_nil_iff.mp word).1
        exact absurd (by simpa using empty) spelled.1
      | cons c rest =>
        exact ⟨c, rest, rfl, .inr (.inr ⟨unmarked c (by simp [word]), array, rfl⟩)⟩

/-- References whose texts start alike from the end are alike in their annotations, in being arrays
and in having arguments. -/
theorem shape_eq_of_backwards_append_eq {a b : TypeRef} (ha : a.IsSpelled) (hb : b.IsSpelled)
    {rest rest' : List Char} (same : a.backwards ++ rest = b.backwards ++ rest') :
    (a.nullable = b.nullable ∧ a.bare.backwards ++ rest = b.bare.backwards ++ rest') ∧
      (a.kind = .arrayType ↔ b.kind = .arrayType) ∧ (a.arguments = [] ↔ b.arguments = []) := by
  obtain ⟨c, chars, text, shape⟩ := exists_backwards_eq_cons ha
  obtain ⟨c', chars', text', shape'⟩ := exists_backwards_eq_cons hb
  have marked : ']' ∈ marks ∧ '>' ∈ marks ∧ '?' ∈ marks := by decide
  rw [backwards_eq a, backwards_eq b, text, text'] at same
  rw [text, text']
  have annotated : a.nullable = b.nullable := by
    cases hn : a.nullable <;> cases hn' : b.nullable <;> simp [hn, hn'] at same ⊢ <;> grind
  rw [annotated, List.append_assoc, List.append_assoc] at same
  have bare := List.append_cancel_left same
  obtain rfl := (List.cons.inj bare).1
  exact ⟨⟨annotated, bare⟩, by grind, by grind⟩

/-- Whether a reference is told apart, up to kinds, by its text in front of a delimiter. -/
def ToldApart (a : TypeRef) : Prop :=
  ∀ b : TypeRef, b.WellSpelled → ∀ rest rest', Delimits rest → Delimits rest' →
    a.backwards ++ rest = b.backwards ++ rest' → a.unkinded = b.unkinded ∧ rest = rest'

/-- Arguments are told apart one by one; the first of them stands behind an opening bracket. -/
theorem eq_of_argumentsBackwards_eq {first first' : TypeRef} {types types' : List TypeRef}
    {rest rest' : List Char} (apart : first.ToldApart) (others : ∀ type ∈ types, type.ToldApart)
    (spelled : first'.WellSpelled) (spelledOthers : ∀ type ∈ types', type.WellSpelled)
    (same : (types.flatMap fun type => type.backwards ++ [' ', ',']) ++
        (first.backwards ++ '<' :: rest) =
      (types'.flatMap fun type => type.backwards ++ [' ', ',']) ++
        (first'.backwards ++ '<' :: rest')) :
    types.map unkinded = types'.map unkinded ∧ first.unkinded = first'.unkinded ∧ rest = rest' := by
  have bracket : ∀ rest, Delimits ('<' :: rest) := fun rest c h => .inr (Option.some.inj h).symm
  have blank : ∀ rest, Delimits (' ' :: rest) := fun rest c h => .inl (Option.some.inj h).symm
  induction types generalizing types' with
  | nil =>
    cases types' with
    | nil =>
      obtain ⟨first, same⟩ := apart first' spelled _ _ (bracket _) (bracket _) same
      exact ⟨rfl, first, (List.cons.inj same).2⟩
    | cons type' types' =>
      rw [List.flatMap_cons, List.append_assoc, List.append_assoc] at same
      have here' := spelledOthers type' List.mem_cons_self
      have different := (apart type' here' _ _ (bracket _) (blank _) same).2
      exact absurd (List.cons.inj different).1 (by decide)
  | cons type types ih =>
    obtain ⟨here, others⟩ := List.forall_mem_cons.mp others
    rw [List.flatMap_cons, List.append_assoc, List.append_assoc] at same
    cases types' with
    | nil =>
      have different := (here first' spelled _ _ (blank _) (bracket _) same).2
      exact absurd (List.cons.inj different).1 (by decide)
    | cons type' types' =>
      obtain ⟨here', spelledOthers⟩ := List.forall_mem_cons.mp spelledOthers
      rw [List.flatMap_cons, List.append_assoc, List.append_assoc] at same
      obtain ⟨head, same⟩ := here type' here' _ _ (blank _) (blank _) same
      have tails := (List.cons.inj (List.cons.inj same).2).2
      obtain ⟨tail, rest⟩ := ih others spelledOthers tails
      exact ⟨by rw [List.map_cons, List.map_cons, head, tail], rest⟩

theorem unkinded_congr {a b : TypeRef} (name : a.name = b.name) (qualifier : a.qualifier = b.qualifier)
    (array : a.kind = .arrayType ↔ b.kind = .arrayType)
    (arguments : a.arguments.map unkinded = b.arguments.map unkinded)
    (nullable : a.nullable = b.nullable) : a.unkinded = b.unkinded := by
  rw [unkinded_eq, unkinded_eq]
  simp only [name, qualifier, array, arguments, nullable]

section Shapes

variable {a b : TypeRef} {rest rest' : List Char} (spelled : a.IsSpelled) (spelled' : b.IsSpelled)
  (nullable : a.nullable = b.nullable) (hrest : Delimits rest) (hrest' : Delimits rest')
  (same : a.bare.backwards ++ rest = b.bare.backwards ++ rest')
include spelled spelled' nullable hrest hrest' same

theorem unkinded_eq_of_array (array : a.kind = .arrayType) (array' : b.kind = .arrayType)
    (apart : ∀ argument ∈ a.arguments, argument.ToldApart)
    (onArguments : ∀ argument ∈ b.arguments, argument.WellSpelled) :
    a.unkinded = b.unkinded ∧ rest = rest' := by
  rw [IsSpelled, if_pos array] at spelled
  rw [IsSpelled, if_pos array'] at spelled'
  obtain ⟨name, qualifier, one⟩ := spelled
  obtain ⟨name', qualifier', one'⟩ := spelled'
  obtain ⟨element, arguments⟩ := List.length_eq_one_iff.mp one
  obtain ⟨element', arguments'⟩ := List.length_eq_one_iff.mp one'
  rw [backwards_array array arguments, backwards_array array' arguments'] at same
  simp only [List.cons_append, List.cons.injEq, true_and] at same
  obtain ⟨elements, rfl⟩ := apart element (by simp [arguments]) element'
    (onArguments element' (by simp [arguments'])) _ _ hrest hrest' same
  exact ⟨unkinded_congr (name.trans name'.symm) (qualifier.trans qualifier'.symm)
    (iff_of_true array array') (by simp [arguments, arguments', elements]) nullable, rfl⟩

theorem unkinded_eq_of_plain (plain : a.kind ≠ .arrayType) (plain' : b.kind ≠ .arrayType)
    (arguments : a.arguments = []) (arguments' : b.arguments = []) :
    a.unkinded = b.unkinded ∧ rest = rest' := by
  rw [backwards_plain arguments, backwards_plain arguments'] at same
  obtain ⟨⟨name, qualifier⟩, rfl⟩ :=
    eq_of_wordBackwards_append_eq spelled spelled' plain plain' hrest hrest' same
  exact ⟨unkinded_congr name qualifier (iff_of_false plain plain')
    (by rw [arguments, arguments']) nullable, rfl⟩

theorem unkinded_eq_of_applied (plain : a.kind ≠ .arrayType) (plain' : b.kind ≠ .arrayType)
    {first first' : TypeRef} {others others' : List TypeRef} (arguments : a.arguments = first :: others)
    (arguments' : b.arguments = first' :: others')
    (apart : ∀ argument ∈ a.arguments, argument.ToldApart)
    (onArguments : ∀ argument ∈ b.arguments, argument.WellSpelled) :
    a.unkinded = b.unkinded ∧ rest = rest' := by
  rw [backwards_applied plain arguments, backwards_applied plain' arguments'] at same
  simp only [List.cons_append, List.append_assoc, List.cons.injEq, true_and] at same
  rw [arguments, List.forall_mem_cons] at apart
  rw [arguments', List.forall_mem_cons] at onArguments
  obtain ⟨others, first, word⟩ := eq_of_argumentsBackwards_eq apart.1
    (fun type h => apart.2 type (List.mem_reverse.mp h)) onArguments.1
    (fun type h => onArguments.2 type (List.mem_reverse.mp h)) same
  obtain ⟨⟨name, qualifier⟩, rfl⟩ :=
    eq_of_wordBackwards_append_eq spelled spelled' plain plain' hrest hrest' word
  rw [List.map_reverse, List.map_reverse, List.reverse_inj] at others
  exact ⟨unkinded_congr name qualifier (iff_of_false plain plain')
    (by simp [arguments, arguments', first, others]) nullable, rfl⟩

end Shapes

theorem toldApart {a : TypeRef} (ha : a.WellSpelled) : a.ToldApart := by
  induction a using induction_arguments with
  | step a ih =>
    intro b hb rest rest' hrest hrest' same
    obtain ⟨spelled, onArguments⟩ := everywhere_iff.mp ha
    obtain ⟨spelled', onArguments'⟩ := everywhere_iff.mp hb
    have apart := fun argument h => ih argument h (onArguments argument h)
    obtain ⟨⟨nullable, same⟩, array, empty⟩ := shape_eq_of_backwards_append_eq spelled spelled' same
    by_cases isArray : a.kind = .arrayType
    · exact unkinded_eq_of_array spelled spelled' nullable hrest hrest' same isArray
        (array.mp isArray) apart onArguments'
    · have plain := mt array.mpr isArray
      cases arguments : a.arguments with
      | nil =>
        exact unkinded_eq_of_plain spelled spelled' nullable hrest hrest' same isArray plain arguments
          (empty.mp arguments)
      | cons first others =>
        cases arguments' : b.arguments with
        | nil => cases arguments.symm.trans (empty.mpr arguments')
        | cons first' others' =>
          exact unkinded_eq_of_applied spelled spelled' nullable hrest hrest' same isArray plain
            arguments arguments' apart onArguments'

/-- Well-spelled references of one text are the same up to kinds. -/
theorem unkinded_eq_of_display_eq {a b : TypeRef} (ha : a.WellSpelled) (hb : b.WellSpelled)
    (same : a.display = b.display) : a.unkinded = b.unkinded := by
  have ends : Delimits [] := fun _ h => nomatch h
  exact (toldApart ha b hb [] [] ends ends (by rw [backwards, backwards, same])).1

/-- Of lists whose entries have one image one by one, the entries also have one image under what that
image tells. -/
theorem map_eq_map_of_map_eq {α β : Type} {f : TypeRef → α} {g : TypeRef → β}
    {types types' : List TypeRef} (same : types.map f = types'.map f)
    (tells : ∀ type ∈ types, ∀ type' ∈ types', f type = f type' → g type = g type') :
    types.map g = types'.map g := by
  have arity : types.length = types'.length := by simpa using congrArg List.length same
  refine List.ext_getElem (by simpa using arity) fun i hi hi' => ?_
  rw [List.length_map] at hi hi'
  rw [List.getElem_map, List.getElem_map]
  refine tells _ (List.getElem_mem hi) _ (List.getElem_mem hi') ?_
  simpa [hi, hi'] using congrArg (·[i]?) same

/-- A reference is told by its names, namespaces and annotations if its parts are of the kinds that
their keys stand for. -/
theorem eq_of_unkinded_eq {kindOf : String → TypeKind} {a b : TypeRef}
    (ha : a.Everywhere fun part => part.kind = kindOf part.key)
    (hb : b.Everywhere fun part => part.kind = kindOf part.key) (same : a.unkinded = b.unkinded) :
    a = b := by
  induction a using induction_arguments generalizing b with
  | step a ih =>
    obtain ⟨kind, onArguments⟩ := everywhere_iff.mp ha
    obtain ⟨kind', onArguments'⟩ := everywhere_iff.mp hb
    rw [unkinded_eq, unkinded_eq] at same
    simp only [mk.injEq] at same
    obtain ⟨name, qualifier, -, arguments, nullable⟩ := same
    have arguments : a.arguments.map id = b.arguments.map id :=
      map_eq_map_of_map_eq arguments fun argument h argument' h' =>
        ih argument h (onArguments argument h) (onArguments' argument' h')
    rw [List.map_id, List.map_id] at arguments
    obtain ⟨_, _, _, _, _⟩ := a
    obtain ⟨_, _, _, _, _⟩ := b
    simp only [key] at *
    subst name qualifier arguments nullable
    rw [kind, kind']

/-- Well-spelled references of one text are equal if their parts are of the kinds that their keys
stand for. -/
theorem eq_of_display_eq {kindOf : String → TypeKind} {a b : TypeRef} (ha : a.WellSpelled)
    (hb : b.WellSpelled) (kinds : a.Everywhere fun part => part.kind = kindOf part.key)
    (kinds' : b.Everywhere fun part => part.kind = kindOf part.key)
    (same : a.display = b.display) : a = b :=
  eq_of_unkinded_eq kinds kinds' (unkinded_eq_of_display_eq ha hb same)

end TypeRef

end FluentGen
