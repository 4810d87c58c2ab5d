import WatchfaceCheck.Proofs.Json.Cutting
import WatchfaceCheck.Proofs.Json.Reading
namespace WatchfaceCheck.Json

open Text

theorem itemTokens_concat (items : List Json) (last : Json) :
    itemTokens (items ++ [last]) = items.flatMap (fun item => item.tokens ++ [.comma]) ++ last.tokens := by
  induction items with
  | nil => simp [itemTokens]
  | cons item others ih =>
    cases others with
    | nil => simp [itemTokens]
    | cons next more =>
      rw [List.cons_append, List.cons_append, itemTokens, ← List.cons_append, ih]
      simp

def memberOf (member : Member) : List Token := .string member.1 :: .colon :: member.2.tokens

theorem memberTokens_concat (members : List Member) (last : Member) :
    memberTokens (members ++ [last])
      = members.flatMap (fun member => memberOf member ++ [.comma]) ++ memberOf last := by
  induction members with
  | nil => simp [memberTokens, memberOf]
  | cons member others ih =>
    cases others with
    | nil => simp [memberTokens, memberOf]
    | cons next more =>
      rw [List.cons_append, List.cons_append, memberTokens, ← List.cons_append, ih]
      simp [memberOf]

-- The tokens of what a frame holds, each value or member with the comma behind it.
def Frame.shown : Frame → List Token
  | .array before => .openBracket :: before.reverse.flatMap fun item => item.tokens ++ [.comma]
  | .object before key => .openBrace
      :: before.reverse.flatMap (fun member => memberOf member ++ [.comma]) ++ [.string key, .colon]

namespace State

def around (frames : List Frame) : List Token := frames.reverse.flatMap Frame.shown

def shown : State → List Token
  | .value frames => around frames
  | .first frames => around frames ++ [.openBracket]
  | .name before frames _ => around frames
      ++ .openBrace :: before.reverse.flatMap fun member => memberOf member ++ [.comma]
  | .colon before key frames => around frames
      ++ .openBrace :: before.reverse.flatMap (fun member => memberOf member ++ [.comma])
      ++ [.string key]
  | .after done frames => around frames ++ done.tokens

def Fresh : State → Prop
  | .name before _ true => before = []
  | _ => True

theorem around_cons (frame : Frame) (frames : List Frame) :
    around (frame :: frames) = around frames ++ frame.shown := by
  simp [around]

theorem shown_takeValue {frames : List Frame} {token : Token} {next : State}
    (taken : takeValue frames token = some next) :
    next.Fresh ∧ next.shown = around frames ++ [token] := by
  unfold takeValue at taken
  split at taken
  all_goals cases taken
  all_goals exact ⟨by trivial, rfl⟩

theorem shown_takeAfter {done : Json} {frames : List Frame} {token : Token} {next : State}
    (taken : takeAfter done frames token = some next) :
    next.Fresh ∧ next.shown = around frames ++ done.tokens ++ [token] := by
  unfold takeAfter at taken
  split at taken
  all_goals cases taken
  all_goals refine ⟨by trivial, ?_⟩
  · simp [shown, around_cons, Frame.shown]
  · simp [shown, around_cons, Frame.shown, tokens, itemTokens_concat]
  · simp [shown, around_cons, Frame.shown, memberOf]
  · simp [shown, around_cons, Frame.shown, tokens, memberTokens_concat, memberOf]

-- Every step shows the token that it takes.
theorem shown_step {state next : State} {token : Token} (fresh : state.Fresh)
    (stepped : state.step token = some next) :
    next.Fresh ∧ next.shown = state.shown ++ [token] := by
  unfold step at stepped
  split at stepped
  · exact shown_takeValue stepped
  · cases stepped
    exact ⟨trivial, by simp [shown, tokens, itemTokens]⟩
  · obtain ⟨same, shows⟩ := shown_takeValue stepped
    exact ⟨same, by rw [shows, around_cons]; rfl⟩
  · cases stepped
    exact ⟨trivial, rfl⟩
  · cases stepped
    obtain rfl := fresh
    exact ⟨trivial, by simp [shown, tokens, memberTokens]⟩
  · cases stepped
  · cases stepped
    exact ⟨trivial, by simp [shown, around_cons, Frame.shown]⟩
  · cases stepped
  · exact shown_takeAfter stepped

theorem shown_run {state final : State} {tokens : List Token} (fresh : state.Fresh)
    (ran : state.run tokens = some final) : final.shown = state.shown ++ tokens := by
  induction tokens generalizing state with
  | nil =>
    cases ran
    exact (List.append_nil _).symm
  | cons token others ih =>
    obtain ⟨next, stepped, later⟩ := Option.bind_eq_some_iff.mp ran
    obtain ⟨same, shows⟩ := shown_step fresh stepped
    rw [ih same later, shows, List.append_assoc, List.singleton_append]

end State

theorem eq_tokens_of_ofTokens? {tokens : List Token} {json : Json}
    (read : ofTokens? tokens = some json) : tokens = json.tokens := by
  obtain ⟨final, ran, finished⟩ := Option.bind_eq_some_iff.mp read
  have fresh : State.start.Fresh := trivial
  have shows := State.shown_run fresh ran
  cases final with
  | after done frames =>
    cases frames with
    | nil =>
      cases finished
      exact shows.symm
    | cons frame others => cases finished
  | _ => cases finished

theorem read?_eq_some_iff {text : String} {json : Json} :
    read? (symbolsOf text) = some json ↔ Document json text.toList := by
  constructor
  · intro read
    obtain ⟨tokens, scanned, built⟩ := Option.bind_eq_some_iff.mp read
    have plain : none ∉ symbolsOf text := by simp [symbolsOf]
    obtain ⟨more, chars, rfl, same, laid⟩ := Token.laid_of_scan plain scanned
    have whole : text.toList = chars := (List.map_inj_right fun _ _ => Option.some.inj).mp same
    rw [Document, ← eq_tokens_of_ofTokens? built, whole]
    exact laid
  · exact read?_document

end WatchfaceCheck.Json
