/-!
# Capitals

`capitals` writes a text in capitals as far as the plain alphabet goes: a plain letter becomes its
capital, and a letter or ligature of another block whose capitals are plain letters becomes those.
Any other character stays as it is, so a text names a word of plain capitals exactly if its full
capitalisation does.
-/

namespace ShardFleet.Text

def plainCapitals (char : Char) : List Char :=
  match char.toNat with
  | 0xdf => ['S', 'S']
  | 0x131 => ['I']
  | 0x17f => ['S']
  | 0xfb00 => ['F', 'F']
  | 0xfb01 => ['F', 'I']
  | 0xfb02 => ['F', 'L']
  | 0xfb03 => ['F', 'F', 'I']
  | 0xfb04 => ['F', 'F', 'L']
  | 0xfb05 => ['S', 'T']
  | 0xfb06 => ['S', 'T']
  | _ => [char.toUpper]

def capitals (text : String) : String :=
  String.ofList (text.toList.flatMap plainCapitals)

end ShardFleet.Text
