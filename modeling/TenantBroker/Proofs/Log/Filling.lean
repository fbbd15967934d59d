import TenantBroker.Log.Message

/-!
# A message that ends with a text

A pattern whose only directive is one for a text, at its end, is filled with that text as it stands,
whatever characters it holds.
-/

namespace TenantBroker.Log

variable {α β : Type}

/-- What follows a step goes on from where the step ends. -/
theorem run_bind {step : Filling α} {next : α → Filling β} {c after : Cursor} {a : α}
    (h : step.run c = .ok (a, after)) : (step >>= next).run c = (next a).run after := by
  rw [StateT.run_bind, h]
  rfl

/-- Looking at the cursor changes nothing. -/
theorem run_get (c : Cursor) : (get : Filling Cursor).run c = .ok (c, c) := rfl

/-- A letter alone is a directive for a text. -/
theorem run_readDirective (supply : Supply) :
    readDirective.run ⟨['s'], supply⟩ = .ok (⟨[], 0, none, 's'⟩, ⟨[], supply⟩) := rfl

/-- A text is laid out as it stands. -/
theorem lay_text (cs : List Char) : (⟨[], 0, none, 's'⟩ : Directive).lay { body := cs } = cs := by
  simp [Directive.lay, Directive.has]

/-- A text is converted as it stands. -/
theorem convert_text (index : Nat) (text : String) :
    (⟨[], 0, none, 's'⟩ : Directive).convert index (.str text) = .ok text.toList :=
  congrArg Except.ok (lay_text text.toList)

/-- A directive for a text takes the only argument. -/
theorem run_fillDirective (total : Nat) (text : String) :
    (fillDirective total).run ⟨['s'], ⟨none, [.str text]⟩⟩ =
      .ok (text.toList, ⟨[], ⟨none, []⟩⟩) := by
  have htaken : takeArgument.run ⟨[], ⟨none, [.str text]⟩⟩ =
      .ok (.str text, ⟨[], ⟨none, []⟩⟩) := rfl
  rw [fillDirective, run_bind (run_readDirective _), run_bind htaken, run_bind (run_get _),
    convert_text]
  rfl

/-- A directive at the end is filled, and that is all. -/
theorem run_fillRest_directive (total fuel : Nat) (text : String) :
    (fillRest total (fuel + 2)).run ⟨['%', 's'], ⟨none, [.str text]⟩⟩ =
      .ok (text.toList, ⟨[], ⟨none, []⟩⟩) := by
  have hstep : (fillRest total (fuel + 2)).run ⟨['%', 's'], ⟨none, [.str text]⟩⟩ =
      (do let text ← fillDirective total
          return text ++ (← fillRest total (fuel + 1)) : Filling (List Char)).run
        ⟨['s'], ⟨none, [.str text]⟩⟩ := rfl
  have hstop : (fillRest total (fuel + 1)).run ⟨[], ⟨none, []⟩⟩ = .ok ([], ⟨[], ⟨none, []⟩⟩) := rfl
  rw [hstep, run_bind (run_fillDirective _ _), run_bind hstop, List.append_nil]
  rfl

/-- A character that is no percent sign is written as it stands. -/
theorem run_fillRest_cons {c : Char} (h : c ≠ '%') (total fuel : Nat) (rest : List Char)
    (supply : Supply) : (fillRest total (fuel + 1)).run ⟨c :: rest, supply⟩ =
      (do return c :: (← fillRest total fuel) : Filling (List Char)).run ⟨rest, supply⟩ := by
  rw [fillRest, run_bind (run_get _)]
  split
  · next hempty => cases hempty
  · next hpercent => exact absurd (List.cons.inj hpercent).1 h
  · next hpercent => exact absurd (List.cons.inj hpercent).1 h
  · next hsame =>
    obtain ⟨rfl, rfl⟩ := List.cons.inj hsame
    rfl

/-- Characters without a percent sign are written as they stand. -/
theorem run_fillRest_append {cs : List Char} (h : '%' ∉ cs) {total fuel : Nat}
    {rest filled : List Char} {supply : Supply} {after : Cursor}
    (hrest : (fillRest total fuel).run ⟨rest, supply⟩ = .ok (filled, after)) :
    (fillRest total (cs.length + fuel)).run ⟨cs ++ rest, supply⟩ = .ok (cs ++ filled, after) := by
  induction cs with
  | nil => simpa using hrest
  | cons c cs ih =>
    obtain ⟨hc, hcs⟩ : '%' ≠ c ∧ '%' ∉ cs := by simpa using h
    rw [List.length_cons, Nat.add_right_comm, List.cons_append, run_fillRest_cons hc.symm,
      run_bind (ih hcs)]
    rfl

/-- A message that ends with a text ends with that text in full. -/
theorem fill_text {pattern : String} {cs : List Char} (h : pattern.toList = cs ++ ['%', 's'])
    (hcs : '%' ∉ cs) (text : String) :
    fill pattern [.str text] = .ok (String.ofList cs ++ text) := by
  have hlength : cs.length + 2 + 1 = cs.length + (1 + 2) := rfl
  have hsupply : Supply.ofArguments [.str text] = ⟨none, [.str text]⟩ := rfl
  simp only [fill, h, List.length_append, List.length_cons, List.length_nil, hlength, hsupply,
    run_fillRest_append hcs (run_fillRest_directive _ 1 text)]
  simp [bind, Except.bind, pure, Except.pure, String.ofList_append]

end TenantBroker.Log
