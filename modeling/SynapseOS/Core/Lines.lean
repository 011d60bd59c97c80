import Mathlib.Tactic
import SynapseOS.Core.Text

/-! The lines of a text of which some parts are replaced. -/

namespace SynapseOS

section Splitting

variable {line : List Nat} {point : Nat} {rest : List Nat}

theorem splitLinesFrom_nil (line : List Nat) :
    splitLinesFrom line [] = if line = [] then [] else [line] := rfl

theorem splitLinesFrom_single (line : List Nat) (point : Nat) :
    splitLinesFrom line [point] = if lineEnd point = true then [line] else [line ++ [point]] := rfl

theorem splitLines_pair (line rest : List Nat) :
    splitLinesFrom line (0x0D :: 0x0A :: rest) = line :: splitLinesFrom [] rest := rfl

theorem splitLinesFrom_cons {next : Nat} (alone : ¬ (point = 0x0D ∧ next = 0x0A))
    (line rest : List Nat) : splitLinesFrom line (point :: next :: rest) =
      if lineEnd point = true then line :: splitLinesFrom [] (next :: rest)
      else splitLinesFrom (line ++ [point]) (next :: rest) := by
  rw [splitLinesFrom]
  exact fun first second => alone ⟨first, second⟩

theorem splitLines_point (inner : lineEnd point = false) (line rest : List Nat) :
    splitLinesFrom line (point :: rest) = splitLinesFrom (line ++ [point]) rest := by
  cases rest with
  | nil =>
      rw [splitLinesFrom_single, splitLinesFrom_nil,
        if_neg (by rw [inner]; exact Bool.false_ne_true), if_neg]
      simp
  | cons next rest =>
      have alone : ¬ (point = 0x0D ∧ next = 0x0A) := by
        rintro ⟨rfl, -⟩
        cases inner
      rw [splitLinesFrom_cons alone, if_neg (by rw [inner]; exact Bool.false_ne_true)]

theorem splitLines_end (ends : lineEnd point = true)
    (alone : ¬ (point = 0x0D ∧ rest.head? = some 0x0A))
    (line : List Nat) : splitLinesFrom line (point :: rest) = line :: splitLinesFrom [] rest := by
  cases rest with
  | nil =>
      rw [splitLinesFrom_single, if_pos ends]
      rfl
  | cons next rest =>
      have apart : ¬ (point = 0x0D ∧ next = 0x0A) := by
        intro pair
        exact alone ⟨pair.1, by rw [pair.2, List.head?_cons]⟩
      rw [splitLinesFrom_cons apart, if_pos ends]

theorem splitLines_run {run : List Nat} (inner : ∀ point ∈ run, lineEnd point = false)
    (line rest : List Nat) :
    splitLinesFrom line (run ++ rest) = splitLinesFrom (line ++ run) rest := by
  induction run generalizing line with
  | nil => rw [List.append_nil, List.nil_append]
  | cons point run ih =>
      rw [List.cons_append, splitLines_point (inner point List.mem_cons_self),
        ih (fun other among => inner other (List.mem_cons_of_mem _ among)), List.append_assoc,
        List.singleton_append]

/-- How a text starts: with a point in a line, with a pair that ends one, or with another end. -/
theorem splitLines_cases (point : Nat) (rest : List Nat) :
    lineEnd point = false ∨ (∃ others, point = 0x0D ∧ rest = 0x0A :: others) ∨
      (lineEnd point = true ∧ ¬ (point = 0x0D ∧ rest.head? = some 0x0A)) := by
  cases ends : lineEnd point with
  | false => exact .inl rfl
  | true =>
      by_cases pair : point = 0x0D ∧ rest.head? = some 0x0A
      · cases rest with
        | nil => cases pair.2
        | cons next others =>
            have same : next = 0x0A := Option.some.inj pair.2
            exact .inr (.inl ⟨others, pair.1, by rw [same]⟩)
      · exact .inr (.inr ⟨rfl, pair⟩)

theorem splitLines_length {first second : List Nat} (same : first = [] ↔ second = [])
    (text : List Nat) :
    (splitLinesFrom first text).length = (splitLinesFrom second text).length := by
  cases text with
  | nil =>
      by_cases empty : first = []
      · rw [empty, same.mp empty]
      · rw [splitLinesFrom_nil, splitLinesFrom_nil, if_neg empty,
          if_neg (fun none_ => empty (same.mpr none_))]
        rfl
  | cons point rest =>
      induction rest generalizing first second point with
      | nil =>
          rw [splitLinesFrom_single, splitLinesFrom_single]
          split <;> rfl
      | cons next rest ih =>
          rcases splitLines_cases point (next :: rest)
            with inner | ⟨others, rfl, pair⟩ | ⟨ends, alone⟩
          · rw [splitLines_point inner, splitLines_point inner]
            exact ih (by simp) next
          · rw [pair, splitLines_pair, splitLines_pair, List.length_cons, List.length_cons]
          · rw [splitLines_end ends alone, splitLines_end ends alone, List.length_cons,
              List.length_cons]

theorem splitLinesFrom_points (line text : List Nat) :
    ∀ found ∈ splitLinesFrom line text, found ⊆ line ++ text := by
  induction line, text using splitLinesFrom.induct with
  | case1 => simp [splitLinesFrom_nil]
  | case2 line some_ => simp [splitLinesFrom_nil, some_]
  | case3 line point ends => simp [splitLinesFrom_single, ends]
  | case4 line point inner => simp [splitLinesFrom_single, inner]
  | case5 line rest ih =>
      rw [splitLines_pair]
      intro found member point among
      rcases List.mem_cons.mp member with rfl | later
      · exact List.mem_append_left _ among
      · have inside : point ∈ rest := ih found later among
        exact List.mem_append_right _ (List.mem_cons_of_mem _ (List.mem_cons_of_mem _ inside))
  | case6 line point next rest alone ends ih =>
      rw [splitLinesFrom_cons (fun pair => alone pair.1 pair.2), if_pos ends]
      intro found member other among
      rcases List.mem_cons.mp member with rfl | later
      · exact List.mem_append_left _ among
      · have inside : other ∈ next :: rest := ih found later among
        exact List.mem_append_right _ (List.mem_cons_of_mem _ inside)
  | case7 line point next rest alone inner ih =>
      rw [splitLinesFrom_cons (fun pair => alone pair.1 pair.2), if_neg inner]
      intro found member other among
      have inside := ih found member among
      rwa [List.append_assoc] at inside

theorem splitLinesFrom_count (line text : List Nat) :
    (splitLinesFrom line text).length ≤ line.length + text.length := by
  induction line, text using splitLinesFrom.induct with
  | case1 => simp [splitLinesFrom_nil]
  | case2 line some_ =>
      have positive : 0 < line.length := List.length_pos_of_ne_nil some_
      rw [splitLinesFrom_nil, if_neg some_, List.length_singleton]
      omega
  | case3 line point ends => simp [splitLinesFrom_single, ends]
  | case4 line point inner => simp [splitLinesFrom_single, inner]
  | case5 line rest ih =>
      rw [splitLines_pair]
      simp only [List.length_cons, List.length_nil] at ih ⊢
      omega
  | case6 line point next rest alone ends ih =>
      rw [splitLinesFrom_cons (fun pair => alone pair.1 pair.2), if_pos ends]
      simp only [List.length_cons, List.length_nil] at ih ⊢
      omega
  | case7 line point next rest alone inner ih =>
      rw [splitLinesFrom_cons (fun pair => alone pair.1 pair.2), if_neg inner]
      simp only [List.length_cons, List.length_append, List.length_nil] at ih ⊢
      omega

theorem splitLines_append {run : List Nat} (some_ : run ≠ [])
    (last : ∀ point, run.getLast? = some point → lineEnd point = false) (line rest : List Nat) :
    (splitLinesFrom line (run ++ rest)).length + 1 =
      (splitLinesFrom line run).length + (splitLinesFrom [0] rest).length := by
  induction size : run.length using Nat.strong_induction_on generalizing run line with
  | _ number ih =>
      subst size
      cases run with
      | nil => exact absurd rfl some_
      | cons point tail =>
          have further : ∀ {others : List Nat} (line : List Nat), others ≠ [] → others <:+ tail →
              (splitLinesFrom line (others ++ rest)).length + 1 =
                (splitLinesFrom line others).length + (splitLinesFrom [0] rest).length := by
            intro others line left behind
            have shorter := behind.length_le
            refine ih others.length ?_ left ?_ line rfl
            · rw [List.length_cons]
              omega
            · intro final ends
              obtain ⟨front, same⟩ := behind
              apply last final
              rw [← same, List.getLast?_cons, List.getLast?_append, ends]
              rfl
          cases tail with
          | nil =>
              have inner := last point rfl
              rw [List.singleton_append, splitLines_point inner, splitLines_point inner]
              have alone : (splitLinesFrom (line ++ [point]) []).length = 1 := by
                rw [splitLinesFrom_nil, if_neg (by simp)]
                rfl
              have both : line ++ [point] = [] ↔ [0] = [] := by simp
              rw [alone, splitLines_length both, Nat.add_comm]
          | cons next others =>
              rcases splitLines_cases point (next :: others)
                with inner | ⟨final, rfl, pair⟩ | ⟨ends, alone⟩
              · rw [List.cons_append, splitLines_point inner, splitLines_point inner]
                exact further _ (List.cons_ne_nil _ _) List.suffix_rfl
              · obtain ⟨rfl, rfl⟩ := List.cons.inj pair
                have left : others ≠ [] := by
                  rintro rfl
                  cases last 0x0A rfl
                rw [List.cons_append, List.cons_append, splitLines_pair, splitLines_pair,
                  List.length_cons, List.length_cons]
                have later := further [] left (List.suffix_cons _ _)
                omega
              · rw [List.cons_append, splitLines_end ends alone,
                  splitLines_end ends (by simpa using alone), List.length_cons, List.length_cons]
                have later := further [] (List.cons_ne_nil _ _) List.suffix_rfl
                omega

theorem splitLines_single {run : List Nat} (some_ : run ≠ [])
    (last : ∀ point, run.getLast? = some point → lineEnd point = false) (line : List Nat) :
    1 ≤ (splitLinesFrom line run).length ∧
      ((splitLinesFrom line run).length = 1 ↔ ∀ point ∈ run, lineEnd point = false) := by
  induction size : run.length using Nat.strong_induction_on generalizing run line with
  | _ number ih =>
      subst size
      cases run with
      | nil => exact absurd rfl some_
      | cons point tail =>
          have further : ∀ {others : List Nat} (line : List Nat), others ≠ [] → others <:+ tail →
              1 ≤ (splitLinesFrom line others).length ∧
                ((splitLinesFrom line others).length = 1 ↔ ∀ point ∈ others,
                  lineEnd point = false) := by
            intro others line left behind
            have shorter := behind.length_le
            refine ih others.length ?_ left ?_ line rfl
            · rw [List.length_cons]
              omega
            · intro final ends
              obtain ⟨front, same⟩ := behind
              apply last final
              rw [← same, List.getLast?_cons, List.getLast?_append, ends]
              rfl
          rcases splitLines_cases point tail with inner | ⟨others, rfl, rfl⟩ | ⟨ends, alone⟩
          · rw [splitLines_point inner, List.forall_mem_cons]
            cases tail with
            | nil =>
                have alone : (splitLinesFrom (line ++ [point]) []).length = 1 := by
                  rw [splitLinesFrom_nil, if_neg (by simp)]
                  rfl
                rw [alone]
                exact ⟨le_rfl, fun _ => ⟨inner, fun other among => (List.not_mem_nil among).elim⟩,
                  fun _ => rfl⟩
            | cons next others =>
                obtain ⟨least, one⟩ :=
                  further (line ++ [point]) (List.cons_ne_nil next others) List.suffix_rfl
                exact ⟨least, fun single => ⟨inner, one.mp single⟩, fun both => one.mpr both.2⟩
          · have left : others ≠ [] := by
              rintro rfl
              cases last 0x0A rfl
            rw [splitLines_pair, List.length_cons]
            have later := (further [] left (List.suffix_cons _ _)).1
            refine ⟨by omega, fun single => by omega, fun all => ?_⟩
            cases all 0x0D List.mem_cons_self
          · rw [splitLines_end ends alone, List.length_cons]
            have left : tail ≠ [] := by
              rintro rfl
              rw [last point rfl] at ends
              cases ends
            have later := (further [] left List.suffix_rfl).1
            refine ⟨by omega, fun single => by omega, fun all => ?_⟩
            rw [all point List.mem_cons_self] at ends
            cases ends

end Splitting

/-- A part of a text that is copied, or that another text stands for. -/
inductive Piece
  | kept (point : Nat)
  | span (hidden shown : List Nat)

namespace Piece

def hidden : Piece → List Nat
  | .kept point => [point]
  | .span hidden _ => hidden

def shown : Piece → List Nat
  | .kept point => [point]
  | .span _ shown => shown

def Tidy : Piece → Prop
  | .kept _ => True
  | .span hidden shown =>
      hidden ≠ [] ∧ (∀ point, hidden.head? = some point → lineEnd point = false) ∧
        (∀ point, hidden.getLast? = some point → lineEnd point = false) ∧
        shown ≠ [] ∧ ∀ point ∈ shown, lineEnd point = false

def Flat : Piece → Prop
  | .kept _ => True
  | .span hidden _ => ∀ point ∈ hidden, lineEnd point = false

end Piece

section Pieces

def pieceLines (line : List Piece) : List Piece → List (List Piece)
  | [] => if line.isEmpty = true then [] else [line]
  | .span hidden shown :: rest => pieceLines (line ++ [.span hidden shown]) rest
  | .kept 0x0D :: .kept 0x0A :: rest => line :: pieceLines [] rest
  | .kept point :: rest =>
      if lineEnd point = true then line :: pieceLines [] rest
      else pieceLines (line ++ [.kept point]) rest

theorem pieceLines_pair (line rest : List Piece) :
    pieceLines line (.kept 0x0D :: .kept 0x0A :: rest) = line :: pieceLines [] rest := rfl

theorem pieceLines_kept {point : Nat} {rest : List Piece}
    (alone : ¬ (point = 0x0D ∧ rest.head? = some (.kept 0x0A)))
    (line : List Piece) : pieceLines line (.kept point :: rest) =
      if lineEnd point = true then line :: pieceLines [] rest
      else pieceLines (line ++ [.kept point]) rest := by
  rw [pieceLines]
  rintro others rfl rfl
  exact alone ⟨rfl, rfl⟩

theorem head_alone {point : Nat} {rest : List Piece}
    (alone : ∀ others, rest = .kept 0x0A :: others → point = 0x0D → False) :
    ¬ (point = 0x0D ∧ rest.head? = some (.kept 0x0A)) := by
  rintro ⟨return_, first⟩
  cases rest with
  | nil => cases first
  | cons next others => exact alone others (by rw [Option.some.inj first]) return_

theorem front_alone {point : Nat} {piece : Piece} {front back : List Piece}
    (alone : ¬ (point = 0x0D ∧ (front ++ piece :: back).head? = some (.kept 0x0A))) :
    ¬ (point = 0x0D ∧ (front ++ [Piece.kept 0]).head? = some (.kept 0x0A)) := by
  cases front with
  | nil =>
      rintro ⟨_, other⟩
      cases other
  | cons first rest => exact alone

structure Reads (text : Piece → List Nat) (pieces : List Piece) : Prop where
  kept : ∀ point, text (.kept point) = [point]
  some_ : ∀ piece ∈ pieces, text piece ≠ []
  head : ∀ hidden shown, .span hidden shown ∈ pieces →
    ∀ point, (text (.span hidden shown)).head? = some point →
    lineEnd point = false

variable {text : Piece → List Nat} {pieces line : List Piece}

theorem reads_tail {piece : Piece} (reads : Reads text (piece :: pieces)) : Reads text pieces where
  kept := reads.kept
  some_ := fun other among => reads.some_ other (List.mem_cons_of_mem _ among)
  head := fun hidden shown among => reads.head hidden shown (List.mem_cons_of_mem _ among)

theorem reads_head (reads : Reads text pieces) (starts : (pieces.flatMap text).head? = some 0x0A) :
    pieces.head? = some (.kept 0x0A) := by
  cases pieces with
  | nil => cases starts
  | cons piece rest =>
      rw [List.flatMap_cons, List.head?_append] at starts
      cases piece with
      | kept point =>
          rw [reads.kept] at starts
          have same : point = 0x0A := Option.some.inj starts
          rw [same, List.head?_cons]
      | span hidden shown =>
          cases points : text (.span hidden shown) with
          | nil => exact absurd points (reads.some_ _ List.mem_cons_self)
          | cons head tail =>
              have inner := reads.head hidden shown List.mem_cons_self head (by rw [points]; rfl)
              rw [points] at starts
              have same : head = 0x0A := Option.some.inj starts
              rw [same] at inner
              cases inner

theorem reads_kept {point : Nat} (reads : Reads text (.kept point :: pieces))
    (alone : ¬ (point = 0x0D ∧ pieces.head? = some (.kept 0x0A))) (line : List Nat) :
    splitLinesFrom line ((Piece.kept point :: pieces).flatMap text) =
      if lineEnd point = true then line :: splitLinesFrom [] (pieces.flatMap text)
      else splitLinesFrom (line ++ [point]) (pieces.flatMap text) := by
  rw [List.flatMap_cons, reads.kept, List.singleton_append]
  split
  · next ends =>
      apply splitLines_end ends
      rintro ⟨return_, starts⟩
      exact alone ⟨return_, reads_head (reads_tail reads) starts⟩
  · next inner => exact splitLines_point (Bool.not_eq_true _ ▸ inner) line _

theorem reads_pair (reads : Reads text (.kept 0x0D :: .kept 0x0A :: pieces)) (line : List Nat) :
    splitLinesFrom line ((Piece.kept 0x0D :: .kept 0x0A :: pieces).flatMap text) =
      line :: splitLinesFrom [] (pieces.flatMap text) := by
  rw [List.flatMap_cons, List.flatMap_cons, reads.kept, reads.kept, List.singleton_append,
    List.singleton_append, splitLines_pair]

/-- The lines of a text are the texts of the lines of its pieces. -/
theorem splitLines_pieces (reads : Reads text pieces) (before : ∀ piece ∈ line, text piece ≠ [])
    (inner : ∀ hidden shown, .span hidden shown ∈ pieces → ∀ point ∈ text (.span hidden shown),
      lineEnd point = false) :
    splitLinesFrom (line.flatMap text) (pieces.flatMap text) =
      (pieceLines line pieces).map fun pieces => pieces.flatMap text := by
  fun_induction pieceLines line pieces with
  | case1 line empty =>
      rw [List.isEmpty_iff] at empty
      subst empty
      rfl
  | case2 line some_ =>
      have left : line.flatMap text ≠ [] := by
        intro none_
        rw [List.flatMap_eq_nil_iff] at none_
        cases line with
        | nil => exact some_ rfl
        | cons piece rest => exact before piece List.mem_cons_self (none_ piece List.mem_cons_self)
      show splitLinesFrom (line.flatMap text) [] = _
      rw [splitLinesFrom_nil, if_neg left]
      rfl
  | case3 line hidden shown rest ih =>
      rw [List.flatMap_cons, splitLines_run (inner hidden shown List.mem_cons_self)]
      have later := ih (reads_tail reads) (by
          intro piece among
          rcases List.mem_append.mp among with front | own
          · exact before piece front
          · rw [List.mem_singleton.mp own]
            exact reads.some_ _ List.mem_cons_self)
        fun hidden shown among => inner hidden shown (List.mem_cons_of_mem _ among)
      rw [← later, List.flatMap_append, List.flatMap_singleton]
  | case4 line rest ih =>
      have later := ih (reads_tail (reads_tail reads)) (by simp)
        fun hidden shown among =>
          inner hidden shown (List.mem_cons_of_mem _ (List.mem_cons_of_mem _ among))
      rw [List.flatMap_nil] at later
      rw [reads_pair reads, later, List.map_cons]
  | case5 line point rest alone ends ih =>
      rw [reads_kept reads (head_alone alone), if_pos ends]
      have later := ih (reads_tail reads) (by simp)
        fun hidden shown among => inner hidden shown (List.mem_cons_of_mem _ among)
      rw [List.flatMap_nil] at later
      rw [later, List.map_cons]
  | case6 line point rest alone inside ih =>
      rw [reads_kept reads (head_alone alone), if_neg inside]
      have later := ih (reads_tail reads) (by
          intro piece among
          rcases List.mem_append.mp among with front | own
          · exact before piece front
          · rw [List.mem_singleton.mp own, reads.kept]
            exact List.cons_ne_nil _ _)
        fun hidden shown among => inner hidden shown (List.mem_cons_of_mem _ among)
      rw [← later, List.flatMap_append, List.flatMap_singleton, reads.kept]

theorem pieceLines_holds {number : Nat} {held : List Piece} {piece : Piece}
    (at_ : (pieceLines line pieces)[number]? = some held) (among : piece ∈ held) :
    (number = 0 ∧ piece ∈ line) ∨ ∃ front back, pieces = front ++ piece :: back ∧
      (pieceLines line (front ++ [.kept 0])).length = number + 1 := by
  have single : ∀ line : List Piece, (pieceLines line [.kept 0]).length = 1 := by
    intro line
    rw [pieceLines_kept (by simp), if_neg (by decide), pieceLines, if_neg (by simp)]
    rfl
  fun_induction pieceLines line pieces generalizing number with
  | case1 line empty => cases at_
  | case2 line some_ =>
      cases number with
      | zero =>
          cases at_
          exact .inl ⟨rfl, among⟩
      | succ number => cases at_
  | case3 line hidden shown rest ih =>
      rcases ih at_ with ⟨first, own⟩ | ⟨front, back, rfl, lines⟩
      · rcases List.mem_append.mp own with early | here
        · exact .inl ⟨first, early⟩
        · obtain rfl := List.mem_singleton.mp here
          exact .inr ⟨[], rest, rfl, by rw [List.nil_append, single, first]⟩
      · exact .inr ⟨.span hidden shown :: front, back, rfl,
          by rw [List.cons_append, pieceLines, lines]⟩
  | case4 line rest ih =>
      cases number with
      | zero =>
          cases at_
          exact .inl ⟨rfl, among⟩
      | succ number =>
          rcases ih at_ with ⟨_, none_⟩ | ⟨front, back, rfl, lines⟩
          · cases none_
          · refine .inr ⟨.kept 0x0D :: .kept 0x0A :: front, back, rfl, ?_⟩
            rw [List.cons_append, List.cons_append, pieceLines_pair, List.length_cons, lines]
  | case5 line point rest alone ends ih =>
      cases number with
      | zero =>
          cases at_
          exact .inl ⟨rfl, among⟩
      | succ number =>
          rcases ih at_ with ⟨_, none_⟩ | ⟨front, back, rfl, lines⟩
          · cases none_
          · refine .inr ⟨.kept point :: front, back, rfl, ?_⟩
            rw [List.cons_append, pieceLines_kept (front_alone (head_alone alone)), if_pos ends,
              List.length_cons, lines]
  | case6 line point rest alone inside ih =>
      rcases ih at_ with ⟨first, own⟩ | ⟨front, back, rfl, lines⟩
      · rcases List.mem_append.mp own with early | here
        · exact .inl ⟨first, early⟩
        · obtain rfl := List.mem_singleton.mp here
          exact .inr ⟨[], rest, rfl, by rw [List.nil_append, single, first]⟩
      · refine .inr ⟨.kept point :: front, back, rfl, ?_⟩
        rw [List.cons_append, pieceLines_kept (front_alone (head_alone alone)),
          if_neg inside, lines]

def Piece.ends : Piece → Nat
  | .kept _ => 0
  | .span hidden _ => (splitLinesFrom [0] hidden).length - 1

theorem ends_flat {piece : Piece} (tidy : piece.Tidy) : piece.ends = 0 ↔ piece.Flat := by
  cases piece with
  | kept point => exact ⟨fun _ => trivial, fun _ => rfl⟩
  | span hidden shown =>
      obtain ⟨some_, _, last, _⟩ := tidy
      obtain ⟨least, single⟩ := splitLines_single some_ last [0]
      show (splitLinesFrom [0] hidden).length - 1 = 0 ↔ ∀ point ∈ hidden, lineEnd point = false
      rw [← single]
      omega

theorem hidden_reads (tidy : ∀ piece ∈ pieces, piece.Tidy) : Reads Piece.hidden pieces where
  kept := fun _ => rfl
  some_ := by
    intro piece among
    cases piece with
    | kept point => exact List.cons_ne_nil _ _
    | span hidden shown => exact (tidy _ among).1
  head := fun hidden shown among => (tidy _ among).2.1

theorem shown_reads (tidy : ∀ piece ∈ pieces, piece.Tidy) : Reads Piece.shown pieces where
  kept := fun _ => rfl
  some_ := by
    intro piece among
    cases piece with
    | kept point => exact List.cons_ne_nil _ _
    | span hidden shown => exact (tidy _ among).2.2.2.1
  head := by
    intro hidden shown among point first
    exact (tidy _ among).2.2.2.2 point (List.mem_of_mem_head? first)

theorem splitLines_ends (tidy : ∀ piece ∈ pieces, piece.Tidy) {first second : List Nat}
    (same : first = [] ↔ second = []) :
    (splitLinesFrom first (pieces.flatMap Piece.hidden)).length =
      (splitLinesFrom second (pieces.flatMap Piece.shown)).length +
        (pieces.map Piece.ends).sum := by
  fun_induction pieceLines [] pieces generalizing first second with
  | case1 => exact splitLines_length same []
  | case2 => exact splitLines_length same []
  | case3 line hidden shown rest ih =>
      obtain ⟨some_, starts, last, shows, inner⟩ := tidy _ List.mem_cons_self
      have later := @ih (fun piece among => tidy piece (List.mem_cons_of_mem _ among)) [0]
        (second ++ shown) (by simp [shows])
      have behind := splitLines_append some_ last first (rest.flatMap Piece.hidden)
      have least := (splitLines_single some_ last [0]).1
      have own : (splitLinesFrom first hidden).length = (splitLinesFrom [0] hidden).length := by
        cases hidden with
        | nil => exact absurd rfl some_
        | cons head tail =>
            rw [splitLines_point (starts head rfl), splitLines_point (starts head rfl)]
            exact splitLines_length (by simp) tail
      show (splitLinesFrom first (hidden ++ rest.flatMap Piece.hidden)).length =
        (splitLinesFrom second (shown ++ rest.flatMap Piece.shown)).length +
          ((splitLinesFrom [0] hidden).length - 1 + (rest.map Piece.ends).sum)
      rw [splitLines_run inner]
      omega
  | case4 line rest ih =>
      have later :=
        @ih (fun piece among => tidy piece (List.mem_cons_of_mem _ (List.mem_cons_of_mem _ among)))
        [] [] Iff.rfl
      rw [reads_pair (hidden_reads tidy), reads_pair (shown_reads tidy), List.length_cons,
        List.length_cons, later,
        List.map_cons, List.map_cons, List.sum_cons, List.sum_cons, Piece.ends, Piece.ends]
      omega
  | case5 line point rest alone ends ih =>
      have later := @ih (fun piece among => tidy piece (List.mem_cons_of_mem _ among)) [] [] Iff.rfl
      rw [reads_kept (hidden_reads tidy) (head_alone alone),
        reads_kept (shown_reads tidy) (head_alone alone),
        if_pos ends, if_pos ends, List.length_cons, List.length_cons, later, List.map_cons,
        List.sum_cons, Piece.ends]
      omega
  | case6 line point rest alone inside ih =>
      have later := @ih (fun piece among => tidy piece (List.mem_cons_of_mem _ among))
        (first ++ [point]) (second ++ [point]) (by simp)
      rw [reads_kept (hidden_reads tidy) (head_alone alone),
        reads_kept (shown_reads tidy) (head_alone alone),
        if_neg inside, if_neg inside, later, List.map_cons, List.sum_cons, Piece.ends]
      omega

def lineOf (text : List Nat) (position : Nat) : Nat :=
  (splitLines (text.take position ++ [0])).length - 1

/-- The two texts have the same number of lines exactly when no line ends in a span. -/
theorem lines_number (tidy : ∀ piece ∈ pieces, piece.Tidy) :
    (splitLines (pieces.flatMap Piece.shown)).length =
      (splitLines (pieces.flatMap Piece.hidden)).length ↔
      ∀ piece ∈ pieces, piece.Flat := by
  have lengths := @splitLines_ends _ tidy [] [] Iff.rfl
  have none_ : (pieces.map Piece.ends).sum = 0 ↔ ∀ piece ∈ pieces, piece.Flat := by
    rw [List.sum_eq_zero_iff]
    constructor
    · intro zero piece among
      exact (ends_flat (tidy piece among)).mp (zero _ (List.mem_map_of_mem among))
    · intro flat number among
      obtain ⟨piece, there, rfl⟩ := List.mem_map.mp among
      exact (ends_flat (tidy piece there)).mpr (flat piece there)
  rw [← none_]
  unfold splitLines
  omega

theorem splitLines_hidden (tidy : ∀ piece ∈ pieces, piece.Tidy)
    (flat : ∀ piece ∈ pieces, piece.Flat) :
    splitLines (pieces.flatMap Piece.hidden) = (pieceLines [] pieces).map fun pieces =>
      pieces.flatMap Piece.hidden :=
  @splitLines_pieces _ _ [] (hidden_reads tidy) (by simp) fun hidden shown among => flat _ among

theorem splitLines_shown (tidy : ∀ piece ∈ pieces, piece.Tidy) :
    splitLines (pieces.flatMap Piece.shown) = (pieceLines [] pieces).map fun pieces =>
      pieces.flatMap Piece.shown :=
  @splitLines_pieces _ _ [] (shown_reads tidy) (by simp) fun hidden shown among =>
    (tidy _ among).2.2.2.2

theorem lines_kept (tidy : ∀ piece ∈ pieces, piece.Tidy) (flat : ∀ piece ∈ pieces, piece.Flat)
    {number : Nat}
    (apart : ∀ front hidden shown back, pieces = front ++ .span hidden shown :: back →
      lineOf (pieces.flatMap Piece.hidden) (front.flatMap Piece.hidden).length ≠ number) :
    (splitLines (pieces.flatMap Piece.shown))[number]? =
      (splitLines (pieces.flatMap Piece.hidden))[number]? := by
  rw [splitLines_hidden tidy flat, splitLines_shown tidy, List.getElem?_map, List.getElem?_map]
  cases at_ : (pieceLines [] pieces)[number]? with
  | none => rfl
  | some held =>
      have plain : ∀ piece ∈ held, piece.shown = piece.hidden := by
        intro piece among
        cases piece with
        | kept point => rfl
        | span hidden shown =>
            rcases pieceLines_holds at_ among with ⟨_, own⟩ | ⟨front, back, rfl, lines⟩
            · cases own
            · have early : ∀ piece ∈ front ++ [Piece.kept 0], piece.Tidy ∧ piece.Flat := by
                intro piece there
                rcases List.mem_append.mp there with first | last
                · exact ⟨tidy piece (List.mem_append_left _ first),
                    flat piece (List.mem_append_left _ first)⟩
                · rw [List.mem_singleton.mp last]
                  exact ⟨trivial, trivial⟩
              have counted := splitLines_hidden (fun piece there => (early piece there).1)
                fun piece there => (early piece there).2
              have line : lineOf ((front ++ Piece.span hidden shown :: back).flatMap Piece.hidden)
                  (front.flatMap Piece.hidden).length = number := by
                unfold lineOf
                have same : (front ++ [Piece.kept 0]).flatMap Piece.hidden =
                    front.flatMap Piece.hidden ++ [0] := by
                  rw [List.flatMap_append]
                  rfl
                rw [List.flatMap_append, List.take_left, ← same, counted, List.length_map, lines]
                omega
              exact absurd line (apart front hidden shown back rfl)
      show some (held.flatMap Piece.shown) = some (held.flatMap Piece.hidden)
      rw [List.flatMap_congr plain]

end Pieces

end SynapseOS
