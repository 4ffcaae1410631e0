import RawPost.CommandLine.Arguments
import RawPost.Proofs.Validity

/-!
# What the switches keep

A switch that is turned on and a switch that is assigned a value each change one setting of the layer.  A
property of the layer is kept by a whole command line if every switch keeps it in both ways.
-/

namespace RawPost.CommandLine

open Settings

/-- All that turning on can do. -/
inductive TurnedOn (layer : Layer) : Layer → Prop
  | printResponse : TurnedOn layer { layer with printResponse := some true }
  | debug : TurnedOn layer { layer with debug := some true }

theorem turnedOn_of_turnOn {named : Switch} {layer after : Layer}
    (hturn : named.turnOn layer = .ok after) : TurnedOn layer after := by
  unfold Switch.turnOn at hturn
  cases named with
  | printResponse =>
      rw [Except.ok.injEq] at hturn
      rw [← hturn]
      exact .printResponse
  | debug =>
      rw [Except.ok.injEq] at hturn
      rw [← hturn]
      exact .debug
  | _ => simp at hturn

/-- All that the assignment of a value can do, by the switch that takes it. -/
inductive Assigned (value : String) (layer : Layer) : Layer → Prop
  | connectTimeout {entry : Entry Timeout}
      (hentry : entryOf .connectTimeout value secondsOf? = .ok entry) :
      Assigned value layer { layer with connectTimeout := some entry }
  | readTimeout {entry : Entry Timeout}
      (hentry : entryOf .readTimeout value secondsOf? = .ok entry) :
      Assigned value layer { layer with readTimeout := some entry }
  | responseLimit {entry : Entry Int}
      (hentry : entryOf .responseLimit value Number.readInteger? = .ok entry) :
      Assigned value layer { layer with responseLimit := some entry }

theorem assigned_of_assign {named : Switch} {value : String}
    {layer after : Layer} (hassign : named.assign value layer = .ok after) :
    Assigned value layer after := by
  unfold Switch.assign at hassign
  cases named with
  | connectTimeout =>
      obtain ⟨entry, hentry, hassign⟩ := exists_of_bind_eq_ok hassign
      simp only [pure, Except.pure, Except.ok.injEq] at hassign
      rw [← hassign]
      exact .connectTimeout hentry
  | readTimeout =>
      obtain ⟨entry, hentry, hassign⟩ := exists_of_bind_eq_ok hassign
      simp only [pure, Except.pure, Except.ok.injEq] at hassign
      rw [← hassign]
      exact .readTimeout hentry
  | responseLimit =>
      obtain ⟨entry, hentry, hassign⟩ := exists_of_bind_eq_ok hassign
      simp only [pure, Except.pure, Except.ok.injEq] at hassign
      rw [← hassign]
      exact .responseLimit hentry
  | _ => simp at hassign

/-- A property of layers that no switch takes away. -/
structure SwitchesKeep (keeps : Layer → Prop) : Prop where
  turnOn : ∀ {named : Switch} {layer after : Layer}, keeps layer →
    named.turnOn layer = .ok after → keeps after
  assign : ∀ {named : Switch} {value : String} {layer after : Layer},
    keeps layer → named.assign value layer = .ok after → keeps after

variable {keeps : Layer → Prop}

theorem turnAll_keeps {switches : List Switch} {layer after : Layer}
    (hturn : ∀ {named : Switch} {layer after : Layer}, keeps layer →
      named.turnOn layer = .ok after → keeps after)
    (hlayer : keeps layer)
    (hall : switches.foldlM (fun layer next => next.turnOn layer) layer =
      .ok after) :
    keeps after := by
  induction switches generalizing layer with
  | nil =>
      simp only [List.foldlM_nil, pure, Except.pure, Except.ok.injEq] at hall
      rw [← hall]
      exact hlayer
  | cons named switches ih =>
      rw [List.foldlM_cons] at hall
      obtain ⟨middle, hfirst, hall⟩ := exists_of_bind_eq_ok hall
      exact ih (hturn hlayer hfirst) hall

theorem attach_keeps {named : Switch} {isShort : Bool} {value : String}
    {layer after : Layer}
    (hassign : named.takesValue = true → named.assign value layer = .ok after →
      keeps after)
    (hturn : ∀ {named : Switch} {layer after : Layer}, keeps layer →
      named.turnOn layer = .ok after → keeps after)
    (hlayer : keeps layer)
    (hattach : named.attach isShort value layer = .ok after) :
    keeps after := by
  unfold Switch.attach at hattach
  by_cases htakes : named.takesValue = true
  · rw [if_pos htakes] at hattach
    exact hassign htakes hattach
  · rw [if_neg htakes] at hattach
    split at hattach
    next =>
      split at hattach
      next => simp at hattach
      next others hothers => exact turnAll_keeps hturn hlayer hattach
    next => simp at hattach

/-- One more item in front of what the rest of the words selects leaves its layer as it is. -/
theorem exists_rest_of_item {rest : Except Halt (Layer × List Item)}
    {item : Item} {after : Layer} {items : List Item}
    (hselect : (do
        let (layer, items) ← rest
        return (layer, item :: items)) = .ok (after, items)) :
    ∃ others, rest = .ok (after, others) ∧ items = item :: others := by
  obtain ⟨⟨last, others⟩, hlast, hselect⟩ := exists_of_bind_eq_ok hselect
  simp only [pure, Except.pure, Except.ok.injEq, Prod.mk.injEq] at hselect
  obtain ⟨rfl, rfl⟩ := hselect
  exact ⟨others, hlast, rfl⟩

theorem select_keeps {words : List Word} {pending : Option Switch}
    {layer after : Layer} {items : List Item}
    (hkept : SwitchesKeep keeps) (hlayer : keeps layer)
    (hselect : select pending layer words = .ok (after, items)) :
    keeps after := by
  fun_induction select pending layer words generalizing after items with
  | case1 named layer value rest ih =>
      obtain ⟨middle, hmiddle, hselect⟩ := exists_of_bind_eq_ok hselect
      obtain ⟨others, hrest, -⟩ := exists_rest_of_item hselect
      exact ih middle (hkept.assign hlayer hmiddle) hrest
  | case2 => simp at hselect
  | case3 layer =>
      simp only [Except.ok.injEq, Prod.mk.injEq] at hselect
      rw [← hselect.1]
      exact hlayer
  | case4 layer text rest ih =>
      obtain ⟨others, hrest, -⟩ := exists_rest_of_item hselect
      exact ih hlayer hrest
  | case5 layer rest ih =>
      obtain ⟨others, hrest, -⟩ := exists_rest_of_item hselect
      exact ih hlayer hrest
  | case6 layer text rest ih =>
      obtain ⟨others, hrest, -⟩ := exists_rest_of_item hselect
      exact ih hlayer hrest
  | case7 layer named isShort rest htakes ih => exact ih hlayer hselect
  | case8 layer named isShort rest htakes ih =>
      obtain ⟨middle, hmiddle, hselect⟩ := exists_of_bind_eq_ok hselect
      obtain ⟨others, hrest, -⟩ := exists_rest_of_item hselect
      exact ih middle (hkept.turnOn hlayer hmiddle) hrest
  | case9 layer named isShort value rest ih =>
      obtain ⟨middle, hattach, hselect⟩ := exists_of_bind_eq_ok hselect
      obtain ⟨others, hrest, -⟩ := exists_rest_of_item hselect
      have hmiddle := attach_keeps (fun _ => hkept.assign hlayer) hkept.turnOn
        hlayer hattach
      exact ih middle hmiddle hrest

theorem eq_ok_of_misusing {α : Type} {result : Except Misuse α} {a : α}
    (hresult : misusing result = .ok a) : result = .ok a := by
  cases result with
  | error misuse => simp [misusing, Except.mapError] at hresult
  | ok b => simpa [misusing, Except.mapError] using hresult

/-- The two rounds in which a command line is read, and the arguments that the second one leaves. -/
structure Rounds (texts : List String) (layer : Layer) (arguments : Arguments)
    (words others : List Word) (middle : Layer) (items rest : List Item) : Prop where
  words_eq : Word.ofTexts texts = .ok words
  first_eq : select none {} words = .ok (middle, items)
  others_eq : Word.ofTexts (leftover true items) = .ok others
  second_eq : select none middle others = .ok (layer, rest)
  arguments_eq : (Filling.fillFrom {} [] rest).arguments = .ok arguments

theorem exists_rounds {texts : List String} {layer : Layer}
    {arguments : Arguments} (hread : read texts = .ok (layer, arguments)) :
    ∃ words others middle items rest,
      Rounds texts layer arguments words others middle items rest := by
  obtain ⟨words, hwords, hread⟩ := exists_of_bind_eq_ok hread
  obtain ⟨⟨middle, items⟩, hfirst, hread⟩ := exists_of_bind_eq_ok hread
  obtain ⟨others, hothers, hread⟩ := exists_of_bind_eq_ok hread
  obtain ⟨⟨last, rest⟩, hsecond, hread⟩ := exists_of_bind_eq_ok hread
  obtain ⟨given, hgiven, hread⟩ := exists_of_bind_eq_ok hread
  simp only [pure, Except.pure, Except.ok.injEq, Prod.mk.injEq] at hread
  obtain ⟨rfl, rfl⟩ := hread
  exact ⟨words, others, middle, items, rest, eq_ok_of_misusing hwords, hfirst,
    eq_ok_of_misusing hothers, hsecond, eq_ok_of_misusing hgiven⟩

theorem read_keeps {texts : List String} {layer : Layer} {arguments : Arguments}
    (hkept : SwitchesKeep keeps) (hempty : keeps {})
    (hread : read texts = .ok (layer, arguments)) : keeps layer := by
  obtain ⟨words, others, middle, items, rest, hrounds⟩ := exists_rounds hread
  have hmiddle := select_keeps hkept hempty hrounds.first_eq
  exact select_keeps hkept hmiddle hrounds.second_eq

end RawPost.CommandLine
