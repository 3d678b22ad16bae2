namespace TextQuest.Text

/-- The pieces between the elements that satisfy `cut`; there is one piece more than cuts. -/
def pieces {α : Type} (cut : α → Bool) : List α → List (List α)
  | [] => [[]]
  | a :: rest =>
    if cut a then [] :: pieces cut rest
    else match pieces cut rest with
      | [] => [[a]]
      | piece :: later => (a :: piece) :: later

end TextQuest.Text
