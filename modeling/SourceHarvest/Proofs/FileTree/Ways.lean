import SourceHarvest.FileTree.Operations
import SourceHarvest.Proofs.Path.Names

/-!
# Ways through a file tree

What a walk does at a location depends on whether a directory, a link or neither of them lies
there, and on nothing else that the tree holds.  So a walk goes the same way in every tree
with the same directories and links, and only what stands at its end can be another entry.
-/

namespace SourceHarvest

/-- What a walk does at an entry that is not its end. -/
inductive Way where
  | onward
  | follow (target : String)
  | nowhere
deriving DecidableEq, Repr

theorem Way.ne_onward_of_nowhere {way : Way} (nowhere : way = .nowhere) : way ≠ .onward := by
  rintro rfl
  cases nowhere

/-- Directories are entered, links are followed, and nothing else leads on. -/
def Entry.way : Entry → Way
  | .directory _ => .onward
  | .link target => .follow target
  | _ => .nowhere

namespace FileTree

/-- What a walk does at a location. -/
def way (tree : FileTree) (location : Location) : Way :=
  match tree.get? location with
  | some entry => entry.way
  | none => .nowhere

theorem way_eq_of_get? {tree other : FileTree} {location : Location}
    (same : other.get? location = tree.get? location) : other.way location = tree.way location := by
  rw [way, way, same]

theorem way_of_get? {tree : FileTree} {location : Location} {entry : Entry}
    (held : tree.get? location = some entry) : tree.way location = entry.way := by
  rw [way, held]

@[simp]
theorem way_root (tree : FileTree) : tree.way [] = .onward :=
  rfl

theorem get?_of_way_onward {tree : FileTree} {location : Location}
    (onward : tree.way location = .onward) : ∃ time, tree.get? location = some (.directory time) := by
  rw [way] at onward
  split at onward
  · rename_i entry held
    cases entry with
    | directory time => exact ⟨time, held⟩
    | file | link | fullDevice => cases onward
  · cases onward

theorem get?_of_way_follow {tree : FileTree} {location : Location} {target : String}
    (follow : tree.way location = .follow target) : tree.get? location = some (.link target) := by
  rw [way] at follow
  split at follow
  · rename_i entry held
    cases entry with
    | link found =>
        cases follow
        exact held
    | directory | file | fullDevice => cases follow
  · cases follow

theorem ne_nil_of_way_nowhere {tree : FileTree} {location : Location}
    (nowhere : tree.way location = .nowhere) : location ≠ [] := by
  rintro rfl
  cases nowhere

/-- What the tree holds lies in directories. -/
def Nested (tree : FileTree) : Prop :=
  ∀ location entry, tree.get? location = some entry → tree.way location.dropLast = .onward

theorem Nested.dropLast {tree : FileTree} (nested : tree.Nested) {location : Location}
    (onward : tree.way location = .onward) : tree.way location.dropLast = .onward := by
  rcases get?_of_way_onward onward with ⟨time, held⟩
  exact nested location _ held

/-! ## Where a walk ends -/

/-- A place is what the tree holds at its location, or a free name in a directory. -/
def Holds (tree : FileTree) : Place → Prop
  | .present location entry =>
      tree.way location = entry.way ∧
        (entry.way ≠ .onward → tree.get? location = some entry)
  | .absent location =>
      tree.get? location = none ∧ tree.way location.dropLast = .onward ∧
        ∃ around name, location = around ++ [name] ∧ Path.IsName name

/-- The steps of a path have no slash. -/
theorem not_mem_of_mem_steps {path : Path} {step : String} (member : step ∈ steps path) :
    '/' ∉ step.toList := by
  have part {word : String}
      (inside : word ∈ (Text.splitAtMark '/' path.text.toList).map String.ofList) :
      '/' ∉ word.toList := by
    rcases List.mem_map.mp inside with ⟨found, parted, rfl⟩
    rw [String.toList_ofList]
    exact Text.not_mem_of_mem_splitAtMark parted
  simp only [steps] at member
  split at member
  · rcases List.mem_append.mp member with named | last
    · exact part (List.mem_filter.mp named).1
    · obtain rfl := List.mem_singleton.mp last
      simp
  · exact part (List.mem_filter.mp member).1

/-- The step is a name that can be looked up, with the given steps behind it. -/
structure Proper (last : LastName) (step : String) (rest : List String) : Prop where
  named : ¬ (step = "." ∨ step = "")
  forth : step ≠ ".."
  fillable : ¬ (last = .filled ∧ rest ≠ [] ∧ rest.all (· = ""))
  short : ¬ greatestNameSize < step.utf8ByteSize

/-- The walks that come to a place, step by step. -/
inductive Walks (tree : FileTree) (last : LastName) :
    Nat → Location → List String → Place → Prop where
  | stay (links : Nat) (here : Location) :
      Walks tree last links here []
        (.present here (.directory ((tree.modifiedAt? here).getD tree.clock)))
  | pass {links : Nat} {here : Location} {step : String} {rest : List String} {place : Place}
      (void : step = "." ∨ step = "") (further : Walks tree last links here rest place) :
      Walks tree last links here (step :: rest) place
  | up {links : Nat} {here : Location} {rest : List String} {place : Place}
      (further : Walks tree last links here.dropLast rest place) :
      Walks tree last links here (".." :: rest) place
  | into {links : Nat} {here : Location} {step : String} {rest : List String} {place : Place}
      (proper : Proper last step rest) {time : Int}
      (held : tree.get? (here ++ [step]) = some (.directory time))
      (further : Walks tree last links (here ++ [step]) rest place) :
      Walks tree last links here (step :: rest) place
  | follow {fewer : Nat} {here : Location} {step : String} {rest : List String} {place : Place}
      (proper : Proper last step rest) {target : String}
      (held : tree.get? (here ++ [step]) = some (.link target))
      (followed : ¬ (rest = [] ∧ last = .itself))
      (further : Walks tree last fewer (if Path.isAbsolute ⟨target⟩ then [] else here)
        (steps ⟨target⟩ ++ rest) place) :
      Walks tree last (fewer + 1) here (step :: rest) place
  | atLink {links : Nat} {here : Location} {step : String} (proper : Proper last step [])
      {target : String} (held : tree.get? (here ++ [step]) = some (.link target))
      (itself : last = .itself) :
      Walks tree last links here [step] (.present (here ++ [step]) (.link target))
  | atEntry {links : Nat} {here : Location} {step : String} (proper : Proper last step [])
      {entry : Entry} (held : tree.get? (here ++ [step]) = some entry)
      (blocked : entry.way = .nowhere) :
      Walks tree last links here [step] (.present (here ++ [step]) entry)
  | free {links : Nat} {here : Location} {step : String} (proper : Proper last step [])
      (held : tree.get? (here ++ [step]) = none) :
      Walks tree last links here [step] (.absent (here ++ [step]))

variable {tree other : FileTree} {last : LastName} {links : Nat} {here : Location}
  {remaining : List String} {place : Place}

/-- Going over a link, where so many more links may be followed. -/
def followLink (tree : FileTree) (last : LastName) (links : Nat) (around : Location)
    (target : String) (rest : List String) : Except FileError Place :=
  match links with
  | 0 => .error .tooManyLinks
  | fewer + 1 =>
      tree.walk fewer last (if Path.isAbsolute ⟨target⟩ then [] else around)
        (steps ⟨target⟩ ++ rest)

theorem walk_eq_walkOn (tree : FileTree) (links : Nat) (last : LastName) (here : Location)
    (remaining : List String) :
    tree.walk links last here remaining =
      tree.walkOn last (tree.followLink last links) here remaining := by
  cases links <;> rfl

theorem Walks.of_walkOn
    (further : ∀ around target rest place, tree.followLink last links around target rest = .ok place →
      ∃ fewer, links = fewer + 1 ∧ Walks tree last fewer
        (if Path.isAbsolute ⟨target⟩ then [] else around) (steps ⟨target⟩ ++ rest) place)
    (walked : tree.walkOn last (tree.followLink last links) here remaining = .ok place) :
    Walks tree last links here remaining place := by
  fun_induction walkOn tree last (tree.followLink last links) here remaining with
  | case1 =>
      cases walked
      exact .stay _ _
  | case2 here step rest void inductionHypothesis =>
      exact .pass void (inductionHypothesis walked)
  | case3 here rest _ inductionHypothesis => exact .up (inductionHypothesis walked)
  | case6 here step named forth short there held fillable =>
      cases walked
      exact .free ⟨named, forth, fillable, short⟩ held
  | case8 here step rest named forth fillable short there time held inductionHypothesis =>
      exact .into ⟨named, forth, fillable, short⟩ held (inductionHypothesis walked)
  | case9 here step rest named forth fillable short there target held ended =>
      cases walked
      rcases ended with ⟨rfl, itself⟩
      exact .atLink ⟨named, forth, fillable, short⟩ held itself
  | case10 here step rest named forth fillable short there target held followed =>
      rcases further here target rest place walked with ⟨fewer, rfl, walks⟩
      exact .follow ⟨named, forth, fillable, short⟩ held followed walks
  | case11 here step named forth short there entry noDirectory noLink held fillable =>
      cases walked
      refine .atEntry ⟨named, forth, fillable, short⟩ held ?_
      cases entry with
      | directory time => exact (noDirectory time rfl).elim
      | link target => exact (noLink target rfl).elim
      | file | fullDevice => rfl
  | case4 | case5 | case7 | case12 => cases walked

theorem Walks.of_walk (walked : tree.walk links last here remaining = .ok place) :
    Walks tree last links here remaining place := by
  induction links generalizing here remaining place with
  | zero =>
      rw [walk_eq_walkOn] at walked
      exact .of_walkOn (fun _ _ _ _ impossible => by cases impossible) walked
  | succ fewer inductionHypothesis =>
      rw [walk_eq_walkOn] at walked
      exact .of_walkOn (fun _ _ _ _ led => ⟨fewer, rfl, inductionHypothesis led⟩) walked

theorem Walks.walk_eq (walks : Walks tree last links here remaining place) :
    tree.walk links last here remaining = .ok place := by
  induction walks with
  | stay => rw [walk_eq_walkOn, walkOn]
  | pass void _ inductionHypothesis =>
      rw [walk_eq_walkOn, walkOn, if_pos void, ← walk_eq_walkOn, inductionHypothesis]
  | up _ inductionHypothesis =>
      rw [walk_eq_walkOn, walkOn, if_neg (by decide), if_pos rfl, ← walk_eq_walkOn,
        inductionHypothesis]
  | into proper held _ inductionHypothesis =>
      rw [walk_eq_walkOn, walkOn, if_neg proper.named, if_neg proper.forth,
        if_neg proper.fillable, if_neg proper.short]
      simp only [held, ← walk_eq_walkOn, inductionHypothesis]
  | follow proper held followed _ inductionHypothesis =>
      rw [walk_eq_walkOn, walkOn, if_neg proper.named, if_neg proper.forth,
        if_neg proper.fillable, if_neg proper.short]
      simp only [held, if_neg followed, followLink, inductionHypothesis]
  | atLink proper held itself =>
      rw [walk_eq_walkOn, walkOn, if_neg proper.named, if_neg proper.forth,
        if_neg proper.fillable, if_neg proper.short]
      simp only [held, itself, and_self, if_true]
  | @atEntry _ _ _ proper entry held blocked =>
      rw [walk_eq_walkOn, walkOn, if_neg proper.named, if_neg proper.forth,
        if_neg proper.fillable, if_neg proper.short]
      cases entry with
      | directory | link => cases blocked
      | file | fullDevice => simp only [held, if_true]
  | free proper held =>
      rw [walk_eq_walkOn, walkOn, if_neg proper.named, if_neg proper.forth,
        if_neg proper.fillable, if_neg proper.short]
      simp only [held, if_true]

/-- A walk ends at what the tree holds. -/
theorem Walks.holds (walks : Walks tree last links here remaining place) (nested : tree.Nested)
    (onward : tree.way here = .onward) (free : ∀ step ∈ remaining, '/' ∉ step.toList) :
    tree.Holds place := by
  induction walks with
  | stay links here => exact ⟨onward, fun impossible => absurd rfl impossible⟩
  | pass _ _ inductionHypothesis =>
      exact inductionHypothesis onward fun step member => free step (List.mem_cons_of_mem _ member)
  | up _ inductionHypothesis =>
      exact inductionHypothesis (nested.dropLast onward) fun step member =>
        free step (List.mem_cons_of_mem _ member)
  | into proper held _ inductionHypothesis =>
      exact inductionHypothesis (way_of_get? held) fun step member =>
        free step (List.mem_cons_of_mem _ member)
  | follow proper held followed _ inductionHypothesis =>
      apply inductionHypothesis
      · split
        · exact way_root tree
        · exact onward
      · intro step member
        rcases List.mem_append.mp member with inTarget | inRest
        · exact not_mem_of_mem_steps inTarget
        · exact free step (List.mem_cons_of_mem _ inRest)
  | atLink proper held itself => exact ⟨way_of_get? held, fun _ => held⟩
  | atEntry proper held blocked => exact ⟨way_of_get? held, fun _ => held⟩
  | free proper held =>
      refine ⟨held, ?_, _, _, rfl, free _ List.mem_cons_self, ?_, ?_⟩
      · rwa [List.dropLast_concat]
      · exact fun blank => proper.named (.inr blank)
      · exact fun dot => proper.named (.inl dot)

/-- Only a walk to the last name itself ends at a link. -/
theorem Walks.itself_of_link {location : Location} {target : String}
    (walks : Walks tree last links here remaining (.present location (.link target))) :
    last = .itself := by
  generalize ended : Place.present location (.link target) = place at walks
  induction walks with
  | stay | free => cases ended
  | pass _ _ inductionHypothesis | up _ inductionHypothesis | into _ _ _ inductionHypothesis
  | follow _ _ _ _ inductionHypothesis => exact inductionHypothesis ended
  | atLink _ _ itself => exact itself
  | atEntry _ _ blocked =>
      cases ended
      cases blocked

theorem Proper.of_alike {goal : LastName} {step : String} {rest : List String}
    (proper : Proper last step rest) (alike : goal = last ∨ goal = .followed) :
    Proper goal step rest := by
  rcases alike with rfl | rfl
  · exact proper
  · exact { proper with fillable := fun both => by cases both.1 }

/-- A walk that ends where nothing leads on goes the same way in another tree where all that leads
on does so in the same way, to the entry that lies there then. -/
theorem Walks.transfer (walks : Walks tree last links here remaining place)
    (nested : tree.Nested) (onward : tree.way here = .onward)
    (nowhere : tree.way place.location = .nowhere)
    (same : ∀ location, tree.way location ≠ .nowhere → other.way location = tree.way location)
    {entry : Entry} (held : other.get? place.location = some entry)
    (blocked : entry.way = .nowhere) {goal : LastName} (alike : goal = last ∨ goal = .followed) :
    Walks other goal links here remaining (.present place.location entry) := by
  induction walks with
  | stay links here => cases onward.symm.trans nowhere
  | pass void _ inductionHypothesis =>
      exact .pass void (inductionHypothesis onward nowhere held)
  | up _ inductionHypothesis =>
      exact .up (inductionHypothesis (nested.dropLast onward) nowhere held)
  | into proper there _ inductionHypothesis =>
      have entered := way_of_get? there
      obtain ⟨time, stays⟩ := get?_of_way_onward
        ((same _ (by rw [entered]; exact Way.noConfusion)).trans entered)
      exact .into (proper.of_alike alike) stays (inductionHypothesis entered nowhere held)
  | @follow fewer here step rest place proper target there followed _ inductionHypothesis =>
      have linked := way_of_get? there
      have stays := get?_of_way_follow
        ((same _ (by rw [linked]; exact Way.noConfusion)).trans linked)
      refine .follow (proper.of_alike alike) stays ?_ (inductionHypothesis ?_ nowhere held)
      · rcases alike with rfl | rfl
        · exact followed
        · exact fun both => by cases both.2
      · split
        · exact way_root tree
        · exact onward
  | atLink proper there itself => cases (way_of_get? there).symm.trans nowhere
  | atEntry proper there _ => exact .atEntry (proper.of_alike alike) held blocked
  | free proper there => exact .atEntry (proper.of_alike alike) held blocked

/-- Where the last name is no link, filling it and looking at it come to the same place. -/
theorem Walks.itself_of_filled (walks : Walks tree .filled links here remaining place)
    (plain : ∀ location target,
      ¬ Walks tree .itself links here remaining (.present location (.link target))) :
    Walks tree .itself links here remaining place := by
  generalize mode : LastName.filled = last at walks
  have proper_itself {step : String} {rest : List String} (proper : Proper last step rest) :
      Proper .itself step rest :=
    { proper with fillable := fun both => by cases both.1 }
  induction walks with
  | stay links here => exact .stay links here
  | pass void _ inductionHypothesis =>
      exact .pass void (inductionHypothesis fun location target walks =>
        plain location target (.pass void walks))
  | up _ inductionHypothesis =>
      exact .up (inductionHypothesis fun location target walks => plain location target (.up walks))
  | into proper there _ inductionHypothesis =>
      exact .into (proper_itself proper) there (inductionHypothesis fun location target walks =>
        plain location target (.into (proper_itself proper) there walks))
  | @follow fewer here step rest place proper target there followed _ inductionHypothesis =>
      by_cases ended : rest = []
      · subst ended
        exact (plain _ _ (.atLink (proper_itself proper) there rfl)).elim
      · have goesOn : ¬ (rest = [] ∧ LastName.itself = LastName.itself) := fun both => ended both.1
        exact .follow (proper_itself proper) there goesOn
          (inductionHypothesis fun location target walks =>
            plain location target (.follow (proper_itself proper) there goesOn walks))
  | atLink proper there itself => exact LastName.noConfusion (mode.trans itself)
  | atEntry proper there blocked => exact .atEntry (proper_itself proper) there blocked
  | free proper there => exact .free (proper_itself proper) there

end FileTree

end SourceHarvest
