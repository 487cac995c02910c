import JavaComments.Text.Lines

namespace JavaComments.Text

def utf8 (text : Text) : List UInt8 := text.flatMap String.utf8EncodeChar

/-- The text that the bytes are in UTF-8, if they are one. -/
def ofUtf8? (bytes : List UInt8) : Option Text :=
  bytes.toByteArray.utf8Decode?.map Array.toList

def byteLength (text : Text) : Nat := text.foldr (fun c n => c.utf8Size + n) 0

@[simp] theorem byteLength_nil : byteLength [] = 0 := rfl

@[simp] theorem byteLength_cons (c : Char) (text : Text) :
    byteLength (c :: text) = c.utf8Size + byteLength text := rfl

@[simp] theorem byteLength_append (front back : Text) :
    byteLength (front ++ back) = byteLength front + byteLength back := by
  induction front with
  | nil => simp
  | cons c front ih => simp only [List.cons_append, byteLength_cons, ih, Nat.add_assoc]

@[simp] theorem length_utf8 (text : Text) : text.utf8.length = text.byteLength := by
  induction text with
  | nil => rfl
  | cons c text ih => simpa [utf8] using ih

end JavaComments.Text
