import CommandBook.Shell.Expansion

/-!
# Opening channels

Redirections are carried out in two steps: first the words of all of them are expanded, and then one
after another is opened.

## Main definitions

* `Opening.ofRedirections` — the first step
* `Opening.establish` — the second step
-/

namespace CommandBook.Shell

open Running

namespace Opening

/-- The channel that is led elsewhere. -/
def channel : Opening → Nat
  | .file channel _ _ => channel
  | .copy channel _ => channel
  | .document channel _ => channel

/-- Expands the words of a redirection. A wrong number counts as a flaw of the script, as far as that
has been read. -/
def ofRedirection (capture : Command → Running Bytes) (n : Nat) : Redirection → Running Opening
  | .file channel access w => return .file channel access (← Expansion.text capture n .whole w)
  | .copy channel of => return .copy channel of
  | .document channel number => return .document channel number
  | .copyNamed channel w => do
    match ← Expansion.text capture n .whole w with
    | ['-'] => return .copy channel none
    | text =>
      match text, decimal? text with
      | [_], some d => return .copy channel (some d)
      | _, _ =>
        modifyProcess fun p => { p with line := p.readLine }
        fatal "Syntax error: Bad fd number".toList

def ofRedirections (capture : Command → Running Bytes) (n : Nat) (rs : List Redirection) :
    Running (List Opening) :=
  rs.mapM (ofRedirection capture n)

/-- The text of a document in the script. -/
def documentText (capture : Command → Running Bytes) (n : Nat) (d : Document) : Running Bytes := do
  if d.verbatim then
    return d.text.filterMap fun
      | .char c => some c
      | .escaped c => some c
      | _ => none
  else Expansion.text capture n .document d.text

def establish (capture : Command → Running Bytes) (n : Nat) : Opening → Running Unit
  | .file channel access path => do
    let s ← get
    let p := s.process
    match s.world.openFile p.channels p.current access (p.options.contains 'C') path with
    | .ok (f, world) =>
      modify ({ · with world })
      setChannel channel (some f)
    | .error fault =>
      let reason := match access with
        | .input => ("cannot open ", fault.messageFor "No such file")
        | _ => ("cannot create ", fault.messageFor "Directory nonexistent")
      fatal (reason.1.toList ++ path ++ (": " ++ reason.2).toList)
  | .copy channel none => setChannel channel none
  | .copy channel (some d) => do
    if d = channel then return
    match (← process).channels.lookup d with
    | some f => setChannel channel (some f)
    | none => fatal (toString d ++ ": " ++ ChannelFault.notOpen.message).toList
  | .document channel number => do
    match (← process).documents[number]? with
    | none => return
    | some d =>
      let text ← documentText capture n d
      let (reader, _, _) ← newPipe none (Bytes.toByteArray text)
      setChannel channel (some reader)

/-- Puts channels back to where they led before. -/
def putBack (before : Channels) (openings : List Opening) : Running Unit :=
  openings.forM fun o => setChannel o.channel (before.lookup o.channel)

end Opening

end CommandBook.Shell
