import HttpTemplates.Log.Message

/-!
# Filling in messages

What a message reads like whose places are nothing but their letters: its text, with the arguments in
the places one after the other (`fill_cons`, `fill_plain`, `fill_whole`).
-/

namespace HttpTemplates.Log.Message

variable {names : Names} {fuel : Nat} {rest written : Text} {v : Value} {vs : List Value}

@[simp] theorem fill_end : fill names fuel (.positions []) [] = .ok [] := by
  cases fuel <;> rfl

theorem fill_cons {supply : Supply} {c : Char} (hc : c ≠ '%') :
    fill names (fuel + 1) supply (c :: rest) = (fill names fuel supply rest).map (c :: ·) := by
  rw [fill.eq_4 _ _ _ _ _ fun _ h => absurd h hc, if_neg hc]
  cases fill names fuel supply rest <;> rfl

/-- A place that is nothing but its letter takes the next argument. The letters are told apart only to
evaluate the readers of what may stand in front of them. -/
theorem place_letter {letter : Char} (hletter : letter = 's' ∨ letter = 'd') :
    place names (.positions (v :: vs)) (letter :: rest)
      = (convert {} letter v).map fun written => (written, .positions vs, rest) := by
  have hroom : (0 : Nat) < roomLimit := by decide
  cases hwritten : convert {} letter v <;> rcases hletter with rfl | rfl <;>
    simp [place, readKey, readFlags, readWidth, readPrecision, skipSize, boundedValue, write,
      Supply.next, bind, Except.bind, Except.map, hroom, hwritten]

theorem fill_place {letter : Char} (hletter : letter = 's' ∨ letter = 'd')
    (hwritten : convert {} letter v = .ok written) :
    fill names (fuel + 1) (.positions (v :: vs)) ('%' :: letter :: rest)
      = (fill names fuel (.positions vs) rest).map (written ++ ·) := by
  have hnext : letter ≠ '%' := by rcases hletter with rfl | rfl <;> decide
  rw [fill.eq_4 _ _ _ _ _ (by simp [hnext]), if_pos rfl, place_letter hletter, hwritten]
  show (fill names fuel (.positions vs) rest >>= fun tail => Except.ok (written ++ tail)) = _
  cases fill names fuel (.positions vs) rest <;> rfl

/-- A value goes into its place as it is displayed, and a text without quotes. -/
theorem fill_plain :
    fill names (fuel + 1) (.positions (v :: vs)) ('%' :: 's' :: rest)
      = (fill names fuel (.positions vs) rest).map (v.plain ++ ·) :=
  fill_place (.inl rfl) (by simp [convert, cutText, Layout.text])

/-- An integer goes into its place in decimal digits. -/
theorem fill_whole (n : Int) :
    fill names (fuel + 1) (.positions (.int n :: vs)) ('%' :: 'd' :: rest)
      = (fill names fuel (.positions vs) rest).map (Text.ofInt n ++ ·) := by
  have hdigits : Layout.whole {} 10 false n = Text.ofInt n := by
    cases n <;>
      simp [Layout.whole, Layout.number, Layout.sign, Layout.text, Text.padLeft, Text.ofInt,
        Text.ofNat]
  exact fill_place (.inr rfl) (by simp [convert, wholeOf, wholeText, Except.bind, hdigits])

end HttpTemplates.Log.Message
