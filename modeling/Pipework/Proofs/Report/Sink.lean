import Pipework.Proofs.Text
import Pipework.Report.Dot

/-! The graph of a network as it is written. Whatever takes the pieces gets them in one order, so
writing is offering a list of pieces; a sink without enough room gets the pieces up to the first one
that does not fit, and nothing behind it. -/

namespace Pipework.Dot

open Text

section

variable {m : Type → Type} [Monad m] [LawfulMonad m] {α β : Type}

theorem forM_flatMap (l : List α) (f : α → List β) (g : β → m PUnit) :
    forM (l.flatMap f) g = forM l fun a => forM (f a) g := by
  induction l with
  | nil => rfl
  | cons a l ih => rw [List.flatMap_cons, List.forM_append, List.forM_cons, ih]

theorem forM_flatten (l : List (List β)) (g : β → m PUnit) :
    forM l.flatten g = forM l fun bs => forM bs g := by
  rw [← List.flatMap_id', forM_flatMap]

/-- The loops of the writer go through the statements in their order. -/
theorem write_eq_forM (out : String → m Unit) (n : Network) :
    write out n = forM (pieces n) out := by
  have hstatements : forM ((statements n).flatMap Statement.pieces) out = (do
      forM n.processes.values fun p => (ofNode p).write out
      forM n.inports.entries fun e => forM (ofInport e.1 e.2) (Statement.write out)
      forM n.processes.values fun p =>
        forM p.outports fun o => forM (ofOutport p.name o) (Statement.write out)
      forM n.processes.values fun p =>
        forM (p.packets.mapIdx (ofPacket p.name)) fun ss => forM ss (Statement.write out)) := by
    simp only [statements, forM_flatMap, forM_flatten, List.forM_append, List.forM_map, bind_assoc]
    rfl
  rw [pieces, List.cons_append, List.forM_cons, List.forM_append, hstatements, List.forM_cons,
    List.forM_nil]
  simp [write]

end

theorem run_forM_append (ps : List String) (s : String) :
    (forM (m := StateM String) ps fun piece => modify (· ++ piece)).run s =
      ((), s ++ String.join ps) := by
  induction ps generalizing s with
  | nil =>
    rw [String.join_nil, String.append_empty]
    rfl
  | cons p ps ih =>
    rw [List.forM_cons, String.join_cons, ← String.append_assoc]
    exact ih (s ++ p)

theorem render_eq_join (n : Network) : render n = String.join (pieces n) := by
  rw [render, write_eq_forM, run_forM_append, String.empty_append]

/-- What has become of pieces that were offered to a sink, one after the other. -/
inductive Offered (s : TextSink) (ps : List String) : Except Unit Unit × TextSink → Prop
  | complete (fits : (String.join ps).utf8ByteSize ≤ s.room) :
      Offered s ps (.ok (), ⟨s.room - (String.join ps).utf8ByteSize, s.taken ++ String.join ps,
        s.offers ++ ps.map (·, true)⟩)
  | refused (front : List String) (piece : String) (back : List String)
      (split : ps = front ++ piece :: back)
      (fits : (String.join front).utf8ByteSize ≤ s.room)
      (full : s.room < (String.join front).utf8ByteSize + piece.utf8ByteSize) :
      Offered s ps (.error (), ⟨s.room - (String.join front).utf8ByteSize,
        s.taken ++ String.join front, s.offers ++ front.map (·, true) ++ [(piece, false)]⟩)

/-- A sink that has taken a piece gets the others with less room. -/
theorem Offered.cons {s : TextSink} {p : String} {ps : List String}
    {r : Except Unit Unit × TextSink} (hfits : p.utf8ByteSize ≤ s.room)
    (h : Offered ⟨s.room - p.utf8ByteSize, s.taken ++ p, s.offers ++ [(p, true)]⟩ ps r) :
    Offered s (p :: ps) r := by
  have hjoin (qs : List String) : (String.join (p :: qs)).utf8ByteSize =
      p.utf8ByteSize + (String.join qs).utf8ByteSize := by
    rw [String.join_cons, String.utf8ByteSize_append]
  have htaken (qs : List String) : s.taken ++ p ++ String.join qs =
      s.taken ++ String.join (p :: qs) := by
    rw [String.join_cons, String.append_assoc]
  have hoffers (qs : List String) : s.offers ++ [(p, true)] ++ qs.map (·, true) =
      s.offers ++ (p :: qs).map (·, true) := by
    rw [List.append_assoc]
    rfl
  cases h with
  | complete hrest =>
    rw [htaken, hoffers, Nat.sub_sub, ← hjoin]
    exact .complete (by rw [hjoin]; exact Nat.add_le_of_le_sub' hfits hrest)
  | refused front piece back hsplit hfront hfull =>
    rw [htaken, hoffers, Nat.sub_sub, ← hjoin]
    refine .refused (p :: front) piece back (by rw [hsplit]; rfl) ?_ ?_
    · rw [hjoin]
      exact Nat.add_le_of_le_sub' hfits hfront
    · rw [hjoin]
      dsimp only at hfull
      omega

theorem offered (ps : List String) (s : TextSink) : Offered s ps ((forM ps offer).run.run s) := by
  induction ps generalizing s with
  | nil =>
    have hall : Offered s [] (.ok (), _) := .complete (Nat.zero_le _)
    rw [String.join_nil, String.append_empty, List.map_nil, List.append_nil] at hall
    exact hall
  | cons p ps ih =>
    have hoffer : (offer p).run.run s = s.answer p := rfl
    rw [List.forM_cons, ExceptT.run_bind, StateT.run_bind, hoffer, TextSink.answer]
    by_cases hfits : p.utf8ByteSize ≤ s.room
    · rw [if_pos hfits]
      exact (ih _).cons hfits
    · rw [if_neg hfits]
      have hrefused : Offered s (p :: ps) (.error (), _) :=
        .refused [] p ps rfl (Nat.zero_le _) (by simpa using hfits)
      rw [String.join_nil, String.append_empty, List.map_nil, List.append_nil] at hrefused
      exact hrefused

/-- The graph of a network is written completely exactly if there is room for all of its octets.
What a sink has taken is a front part of the graph, and a refusal is the last that it hears. -/
theorem written_up_to_room (n : Network) (room : ℕ) :
    ((writeInto n room).1 = true ↔ (render n).utf8ByteSize ≤ room) ∧
    toBytes (writeInto n room).2.taken <+: toBytes (render n) ∧
    ∃ accepted : List String, (writeInto n room).2.taken = String.join accepted ∧
      ((writeInto n room).1 = true → (writeInto n room).2.taken = render n ∧
        (writeInto n room).2.offers = accepted.map (·, true)) ∧
      ((writeInto n room).1 = false → ∃ refused,
        (writeInto n room).2.offers = accepted.map (·, true) ++ [(refused, false)]) := by
  have h := offered (pieces n) { room := room }
  rw [← write_eq_forM] at h
  unfold writeInto
  rw [render_eq_join]
  generalize (write offer n).run.run { room := room } = r at h
  cases h with
  | complete hfits =>
    dsimp only
    rw [String.empty_append]
    exact ⟨⟨fun _ => hfits, fun _ => rfl⟩, List.prefix_rfl, pieces n, rfl, fun _ => ⟨rfl, rfl⟩,
      nofun⟩
  | refused front piece back hsplit hfront hfull =>
    dsimp only at hfull ⊢
    rw [String.empty_append, hsplit, String.join_append, String.join_cons]
    refine ⟨⟨nofun, fun hroom => ?_⟩, ?_, front, rfl, nofun, fun _ => ⟨piece, rfl⟩⟩
    · rw [String.utf8ByteSize_append, String.utf8ByteSize_append] at hroom
      omega
    · rw [toBytes_append]
      exact List.prefix_append _ _

end Pipework.Dot
