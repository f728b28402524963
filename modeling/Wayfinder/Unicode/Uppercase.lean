/-
  Wayfinder/Unicode/Uppercase.lean
  ================================
  **Full uppercase mapping.**

  Most characters have a single character as their uppercase form, and the form lies at
  a distance that is the same for long runs of characters.  A few, such as the sharp s
  and the ligatures, become two or three characters.
-/
import Wayfinder.Unicode.CodeSet

namespace Wayfinder.Unicode.Uppercase

/-- Runs of characters with one-character forms: first and last character, the step
    between neighbours of the run, and the form of the first. -/
def runTable : String :=
  "61-7A/1=41 B5-B5/1=39C E0-F6/1=C0 F8-FE/1=D8 FF-FF/1=178 101-12F/2=100 131-131/1=49
    133-137/2=132 13A-148/2=139 14B-177/2=14A 17A-17E/2=179 17F-17F/1=53 180-180/1=243
    183-185/2=182 188-188/1=187 18C-18C/1=18B 192-192/1=191 195-195/1=1F6 199-199/1=198
    19A-19A/1=23D 19B-19B/1=A7DC 19E-19E/1=220 1A1-1A5/2=1A0 1A8-1A8/1=1A7 1AD-1AD/1=1AC
    1B0-1B0/1=1AF 1B4-1B6/2=1B3 1B9-1B9/1=1B8 1BD-1BD/1=1BC 1BF-1BF/1=1F7 1C5-1C5/1=1C4
    1C6-1C6/1=1C4 1C8-1C8/1=1C7 1C9-1C9/1=1C7 1CB-1CB/1=1CA 1CC-1CC/1=1CA 1CE-1DC/2=1CD
    1DD-1DD/1=18E 1DF-1EF/2=1DE 1F2-1F2/1=1F1 1F3-1F3/1=1F1 1F5-1F5/1=1F4 1F9-21F/2=1F8
    223-233/2=222 23C-23C/1=23B 23F-240/1=2C7E 242-242/1=241 247-24F/2=246 250-250/1=2C6F
    251-251/1=2C6D 252-252/1=2C70 253-253/1=181 254-254/1=186 256-257/1=189 259-259/1=18F
    25B-25B/1=190 25C-25C/1=A7AB 260-260/1=193 261-261/1=A7AC 263-263/1=194 264-264/1=A7CB
    265-265/1=A78D 266-266/1=A7AA 268-268/1=197 269-269/1=196 26A-26A/1=A7AE 26B-26B/1=2C62
    26C-26C/1=A7AD 26F-26F/1=19C 271-271/1=2C6E 272-272/1=19D 275-275/1=19F 27D-27D/1=2C64
    280-280/1=1A6 282-282/1=A7C5 283-283/1=1A9 287-287/1=A7B1 288-288/1=1AE 289-289/1=244
    28A-28B/1=1B1 28C-28C/1=245 292-292/1=1B7 29D-29D/1=A7B2 29E-29E/1=A7B0 345-345/1=399
    371-373/2=370 377-377/1=376 37B-37D/1=3FD 3AC-3AC/1=386 3AD-3AF/1=388 3B1-3C1/1=391
    3C2-3C2/1=3A3 3C3-3CB/1=3A3 3CC-3CC/1=38C 3CD-3CE/1=38E 3D0-3D0/1=392 3D1-3D1/1=398
    3D5-3D5/1=3A6 3D6-3D6/1=3A0 3D7-3D7/1=3CF 3D9-3EF/2=3D8 3F0-3F0/1=39A 3F1-3F1/1=3A1
    3F2-3F2/1=3F9 3F3-3F3/1=37F 3F5-3F5/1=395 3F8-3F8/1=3F7 3FB-3FB/1=3FA 430-44F/1=410
    450-45F/1=400 461-481/2=460 48B-4BF/2=48A 4C2-4CE/2=4C1 4CF-4CF/1=4C0 4D1-52F/2=4D0
    561-586/1=531 10D0-10FA/1=1C90 10FD-10FF/1=1CBD 13F8-13FD/1=13F0 1C80-1C80/1=412
    1C81-1C81/1=414 1C82-1C82/1=41E 1C83-1C84/1=421 1C85-1C85/1=422 1C86-1C86/1=42A
    1C87-1C87/1=462 1C88-1C88/1=A64A 1C8A-1C8A/1=1C89 1D79-1D79/1=A77D 1D7D-1D7D/1=2C63
    1D8E-1D8E/1=A7C6 1E01-1E95/2=1E00 1E9B-1E9B/1=1E60 1EA1-1EFF/2=1EA0 1F00-1F07/1=1F08
    1F10-1F15/1=1F18 1F20-1F27/1=1F28 1F30-1F37/1=1F38 1F40-1F45/1=1F48 1F51-1F57/2=1F59
    1F60-1F67/1=1F68 1F70-1F71/1=1FBA 1F72-1F75/1=1FC8 1F76-1F77/1=1FDA 1F78-1F79/1=1FF8
    1F7A-1F7B/1=1FEA 1F7C-1F7D/1=1FFA 1FB0-1FB1/1=1FB8 1FBE-1FBE/1=399 1FD0-1FD1/1=1FD8
    1FE0-1FE1/1=1FE8 1FE5-1FE5/1=1FEC 214E-214E/1=2132 2170-217F/1=2160 2184-2184/1=2183
    24D0-24E9/1=24B6 2C30-2C5F/1=2C00 2C61-2C61/1=2C60 2C65-2C65/1=23A 2C66-2C66/1=23E
    2C68-2C6C/2=2C67 2C73-2C73/1=2C72 2C76-2C76/1=2C75 2C81-2CE3/2=2C80 2CEC-2CEE/2=2CEB
    2CF3-2CF3/1=2CF2 2D00-2D25/1=10A0 2D27-2D27/1=10C7 2D2D-2D2D/1=10CD A641-A66D/2=A640
    A681-A69B/2=A680 A723-A72F/2=A722 A733-A76F/2=A732 A77A-A77C/2=A779 A77F-A787/2=A77E
    A78C-A78C/1=A78B A791-A793/2=A790 A794-A794/1=A7C4 A797-A7A9/2=A796 A7B5-A7C3/2=A7B4
    A7C8-A7CA/2=A7C7 A7CD-A7CD/1=A7CC A7D1-A7DB/2=A7D0 A7F6-A7F6/1=A7F5 AB53-AB53/1=A7B3
    AB70-ABBF/1=13A0 FF41-FF5A/1=FF21 10428-1044F/1=10400 104D8-104FB/1=104B0
    10597-105A1/1=10570 105A3-105B1/1=1057C 105B3-105B9/1=1058C 105BB-105BC/1=10594
    10CC0-10CF2/1=10C80 10D70-10D85/1=10D50 118C0-118DF/1=118A0 16E60-16E7F/1=16E40
    1E922-1E943/1=1E900"

/-- Characters whose form is several characters. -/
def longTable : String :=
  "DF=53+53 149=2BC+4E 1F0=4A+30C 390=399+308+301 3B0=3A5+308+301 587=535+552 1E96=48+331
    1E97=54+308 1E98=57+30A 1E99=59+30A 1E9A=41+2BE 1F50=3A5+313 1F52=3A5+313+300
    1F54=3A5+313+301 1F56=3A5+313+342 1F80=1F08+399 1F81=1F09+399 1F82=1F0A+399
    1F83=1F0B+399 1F84=1F0C+399 1F85=1F0D+399 1F86=1F0E+399 1F87=1F0F+399 1F88=1F08+399
    1F89=1F09+399 1F8A=1F0A+399 1F8B=1F0B+399 1F8C=1F0C+399 1F8D=1F0D+399 1F8E=1F0E+399
    1F8F=1F0F+399 1F90=1F28+399 1F91=1F29+399 1F92=1F2A+399 1F93=1F2B+399 1F94=1F2C+399
    1F95=1F2D+399 1F96=1F2E+399 1F97=1F2F+399 1F98=1F28+399 1F99=1F29+399 1F9A=1F2A+399
    1F9B=1F2B+399 1F9C=1F2C+399 1F9D=1F2D+399 1F9E=1F2E+399 1F9F=1F2F+399 1FA0=1F68+399
    1FA1=1F69+399 1FA2=1F6A+399 1FA3=1F6B+399 1FA4=1F6C+399 1FA5=1F6D+399 1FA6=1F6E+399
    1FA7=1F6F+399 1FA8=1F68+399 1FA9=1F69+399 1FAA=1F6A+399 1FAB=1F6B+399 1FAC=1F6C+399
    1FAD=1F6D+399 1FAE=1F6E+399 1FAF=1F6F+399 1FB2=1FBA+399 1FB3=391+399 1FB4=386+399
    1FB6=391+342 1FB7=391+342+399 1FBC=391+399 1FC2=1FCA+399 1FC3=397+399 1FC4=389+399
    1FC6=397+342 1FC7=397+342+399 1FCC=397+399 1FD2=399+308+300 1FD3=399+308+301
    1FD6=399+342 1FD7=399+308+342 1FE2=3A5+308+300 1FE3=3A5+308+301 1FE4=3A1+313
    1FE6=3A5+342 1FE7=3A5+308+342 1FF2=1FFA+399 1FF3=3A9+399 1FF4=38F+399 1FF6=3A9+342
    1FF7=3A9+342+399 1FFC=3A9+399 FB00=46+46 FB01=46+49 FB02=46+4C FB03=46+46+49
    FB04=46+46+4C FB05=53+54 FB06=53+54 FB13=544+546 FB14=544+535 FB15=544+53B FB16=54E+546
    FB17=544+53D"

/-- A run: `form + (n - first)` is the form of each `n` that the steps from `first` reach. -/
structure Run where
  first : Nat
  last : Nat
  step : Nat
  form : Nat
deriving Repr

/-- The runs. -/
def runs : List Run :=
  (tableEntries runTable).filterMap fun entry =>
    match entry.splitOn "=" with
    | [source, form] =>
      match source.splitOn "/" with
      | [ends, step] =>
        (tableRanges ends).head?.map fun r =>
          ⟨r.1, r.2, hexValue step.toList, hexValue form.toList⟩
      | _ => none
    | _ => none

/-- The characters with several-character forms. -/
def long : List (Nat × List Nat) :=
  (tableEntries longTable).filterMap fun entry =>
    match entry.splitOn "=" with
    | [source, forms] =>
      some (hexValue source.toList, (forms.splitOn "+").map fun f => hexValue f.toList)
    | _ => none

/-- The uppercase form of a character. -/
def ofChar (c : Char) : List Char :=
  let n := c.toNat
  if n < 128 then [c.toUpper]
  else
    match long.find? fun entry => entry.1 = n with
    | some (_, forms) => forms.map Char.ofNat
    | none =>
      match runs.find? fun r => r.first ≤ n && n ≤ r.last && (n - r.first) % r.step == 0 with
      | some r => [Char.ofNat (r.form + (n - r.first))]
      | none => [c]

/-- The uppercase form of a text. -/
def ofText (s : String) : String := String.ofList (s.toList.flatMap ofChar)

end Wayfinder.Unicode.Uppercase
