import SocketDemux.Error.Basic
/-!
# SocketDemux.Proofs.Error.Copy

What a **copy of an error** has in common with it.

The library's own failures are plain data, and a copy of one is that failure again. Only
the input/output error underneath is rebuilt, and loses its inner structure: a raw code
stays a raw code, everything else becomes a kind with a text. So the name of a failure,
its kind and its text survive, and what they are computed from may not.
-/

namespace SocketDemux

namespace IoError

@[simp] theorem kind_copy (e : IoError) : e.copy.kind = e.kind := by
  cases e with
  | os code => simp [copy, osCode?]
  | plain kind => simp [copy, osCode?]
  | constant kind text => simp [copy, osCode?]
  | message kind text => simp [copy, osCode?]
  | carrying kind inner => simp [copy, osCode?]
  | foreign kind text debugText => simp [copy, osCode?]

@[simp] theorem text_copy (e : IoError) : e.copy.text = e.text := by
  cases e with
  | os code => rfl
  | plain kind => simp [copy, osCode?, text]
  | constant kind text => simp [copy, osCode?, IoError.text]
  | message kind text => simp [copy, osCode?, IoError.text]
  | carrying kind inner => simp [copy, osCode?, text]
  | foreign kind text debugText => simp [copy, osCode?, IoError.text]

@[simp] theorem osCode?_copy (e : IoError) : e.copy.osCode? = e.osCode? := by
  cases e with
  | os code => rfl
  | _ => simp [copy, osCode?]

/-- Code, kind and text are all that goes into a copy. -/
theorem copy_congr {e other : IoError} (code : e.osCode? = other.osCode?)
    (kind : e.kind = other.kind) (text : e.text = other.text) : e.copy = other.copy := by
  rw [copy, copy, code, kind, text]

end IoError

namespace SocketError

/-- The text of an input/output error underneath stands behind what was being done. -/
theorem text_failed (op : Operation) (cause : IoError) :
    (failed op cause).text = op.phrase ++ ": " ++ cause.text := by
  rw [text.eq_def]

/-- What is no input/output error underneath is copied as it is, its numbers included. -/
theorem copy_eq_self {e : SocketError} (plain : e.cause? = none) : e.copy = e := by
  cases e with
  | failed op cause => cases plain
  | _ => rfl

@[simp] theorem label_copy (e : SocketError) : e.copy.label = e.label := by
  cases e with
  | failed op cause => rfl
  | _ => rw [copy_eq_self rfl]

@[simp] theorem kind_copy (e : SocketError) : e.copy.kind = e.kind := by
  cases e with
  | failed op cause => simp [copy, kind]
  | _ => rw [copy_eq_self rfl]

@[simp] theorem text_copy (e : SocketError) : e.copy.text = e.text := by
  cases e with
  | failed op cause => rw [copy, text_failed, text_failed, IoError.text_copy]
  | _ => rw [copy_eq_self rfl]

end SocketError

end SocketDemux
