import Whitelist.Host.Entry

/-!
# Marks

A mark belongs to the character before it. Marks of one character that stand at different places of
it are put in an order, by the classes of those places.

## What is here

* `Host.coveringTable`, `Host.spacingTable` — marks without and with a width of their own.
* `Host.isMark`, `Host.isCovering` — whether a character is one of them.
* `Host.markClass` — the class of a mark.
-/

set_option autoImplicit false
namespace Whitelist.Host

/-- Marks without a width of their own, with their classes. -/
def coveringTable : List Entry := Entry.ofText "
  300=314>E6 315>E8 316=319>DC 31A>E8 31B>D8 31C=320>DC 321=322>CA 323=326>DC 327=328>CA
  329=333>DC 334=338>1 339=33C>DC 33D=346>E6 347=349>DC 34A=34C>E6 34D=34E>DC 350=352>E6
  353=356>DC 357>E6 358>E8 359=35A>DC 35B>E6 35C>E9 35D=35E>EA 35F>E9 360=361>EA 362>E9
  363=36F>E6 483=487>E6 488=489 591>DC 592=595>E6 596>DC 597=599>E6 59A>DE 59B>DC 59C=5A1>E6
  5A2=5A7>DC 5A8=5A9>E6 5AA>DC 5AB=5AC>E6 5AD>DE 5AE>E4 5AF>E6 5B0>A 5B1>B 5B2>C 5B3>D 5B4>E
  5B5>F 5B6>10 5B7>11 5B8>12 5B9=5BA>13 5BB>14 5BC>15 5BD>16 5BF>17 5C1>18 5C2>19 5C4>E6 5C5>DC
  5C7>12 610=617>E6 618>1E 619>1F 61A>20 64B>1B 64C>1C 64D>1D 64E>1E 64F>1F 650>20 651>21 652>22
  653=654>E6 655=656>DC 657=65B>E6 65C>DC 65D=65E>E6 65F>DC 670>23 6D6=6DC>E6 6DF=6E2>E6 6E3>DC
  6E4>E6 6E7=6E8>E6 6EA>DC 6EB=6EC>E6 6ED>DC 711>24 730>E6 731>DC 732=733>E6 734>DC 735=736>E6
  737=739>DC 73A>E6 73B=73C>DC 73D>E6 73E>DC 73F=741>E6 742>DC 743>E6 744>DC 745>E6 746>DC 747>E6
  748>DC 749=74A>E6 7A6=7B0 7EB=7F1>E6 7F2>DC 7F3>E6 7FD>DC 816=819>E6 81B=823>E6 825=827>E6
  829=82D>E6 859=85B>DC 897=898>E6 899=89B>DC 89C=89F>E6 8CA=8CE>E6 8CF=8D3>DC 8D4=8E1>E6 8E3>DC
  8E4=8E5>E6 8E6>DC 8E7=8E8>E6 8E9>DC 8EA=8EC>E6 8ED=8EF>DC 8F0>1B 8F1>1C 8F2>1D 8F3=8F5>E6
  8F6>DC 8F7=8F8>E6 8F9=8FA>DC 8FB=8FF>E6 900=902 93A 93C>7 941=948 94D>9 951>E6 952>DC
  953=954>E6 955=957 962=963 981 9BC>7 9C1=9C4 9CD>9 9E2=9E3 9FE>E6 A01=A02 A3C>7 A41=A4C A4D>9
  A51 A70=A71 A75 A81=A82 ABC>7 AC1=AC8 ACD>9 AE2=AE3 AFA=B01 B3C>7 B3F B41=B44 B4D>9 B55=B56
  B62=B63 B82 BC0 BCD>9 C00 C04 C3C>7 C3E=C40 C46=C4C C4D>9 C55>54 C56>5B C62=C63 C81 CBC>7 CCC
  CCD>9 CE2=CE3 D00=D01 D3B=D3C>9 D41=D44 D4D>9 D62=D63 D81 DCA>9 DD2=DD6 E31 E34=E37 E38=E39>67
  E3A>9 E47 E48=E4B>6B E4C=E4E EB1 EB4=EB7 EB8=EB9>76 EBA>9 EBB=EBC EC8=ECB>7A ECC=ECE F18=F19>DC
  F35>DC F37>DC F39>D8 F71>81 F72>82 F74>84 F7A=F7D>82 F7E F80>82 F82=F83>E6 F84>9 F86=F87>E6
  F8D=FBC FC6>DC 102D=1030 1032=1036 1037>7 1039=103A>9 103D=103E 1058=1059 105E=1060 1071=1074
  1082 1085=1086 108D>DC 109D 135D=135F>E6 1712=1713 1714>9 1732=1733 1752=1753 1772=1773
  17B7=17BD 17C6 17C9=17D1 17D2>9 17D3 17DD>E6 1885=1886 18A9>E4 1920=1922 1927=1928 1932 1939>DE
  193A>E6 193B>DC 1A17>E6 1A18>DC 1A1B 1A56 1A58=1A5E 1A60>9 1A62 1A65=1A6C 1A73=1A74
  1A75=1A7C>E6 1A7F>DC 1AB0=1AB4>E6 1AB5=1ABA>DC 1ABB=1ABC>E6 1ABD>DC 1ABE 1ABF=1AC0>DC
  1AC1=1AC2>E6 1AC3=1AC4>DC 1AC5=1AC9>E6 1ACA>DC 1ACB=1ADC>E6 1ADD>DC 1AE0=1AE5>E6 1AE6>DC
  1AE7=1AEA>E6 1AEB>EA 1B00=1B03 1B34>7 1B36=1B3A 1B3C 1B42 1B6B>E6 1B6C>DC 1B6D=1B73>E6
  1B80=1B81 1BA2=1BA5 1BA8=1BA9 1BAB>9 1BAC=1BAD 1BE6>7 1BE8=1BE9 1BED 1BEF=1BF1 1C2C=1C33 1C36
  1C37>7 1CD0=1CD2>E6 1CD4>1 1CD5=1CD9>DC 1CDA=1CDB>E6 1CDC=1CDF>DC 1CE0>E6 1CE2=1CE8>1 1CED>DC
  1CF4>E6 1CF8=1CF9>E6 1DC0=1DC1>E6 1DC2>DC 1DC3=1DC9>E6 1DCA>DC 1DCB=1DCC>E6 1DCD>EA 1DCE>D6
  1DCF>DC 1DD0>CA 1DD1=1DF5>E6 1DF6>E8 1DF7=1DF8>E4 1DF9>DC 1DFA>DA 1DFB>E6 1DFC>E9 1DFD>DC
  1DFE>E6 1DFF>DC 20D0=20D1>E6 20D2=20D3>1 20D4=20D7>E6 20D8=20DA>1 20DB=20DC>E6 20DD=20E0
  20E1>E6 20E2=20E4 20E5=20E6>1 20E7>E6 20E8>DC 20E9>E6 20EA=20EB>1 20EC=20EF>DC 20F0>E6
  2CEF=2CF1>E6 2D7F>9 2DE0=2DFF>E6 302A>DA 302B>E4 302C>E8 302D>DE 3099=309A>8 A66F>E6 A670=A672
  A674=A67D>E6 A69E=A69F>E6 A6F0=A6F1>E6 A802 A806>9 A80B A825=A826 A82C>9 A8C4>9 A8C5
  A8E0=A8F1>E6 A8FF A926=A92A A92B=A92D>DC A947=A951 A980=A982 A9B3>7 A9B6=A9B9 A9BC=A9BD A9E5
  AA29=AA2E AA31=AA32 AA35=AA36 AA43 AA4C AA7C AAB0>E6 AAB2=AAB3>E6 AAB4>DC AAB7=AAB8>E6
  AABE=AABF>E6 AAC1>E6 AAEC=AAED AAF6>9 ABE5 ABE8 ABED>9 FB1E>1A FE20=FE26>E6 FE27=FE2D>DC
  FE2E=FE2F>E6 101FD>DC 102E0>DC 10376=1037A>E6 10A01=10A0C 10A0D>DC 10A0E 10A0F>E6 10A38>E6
  10A39>1 10A3A>DC 10A3F>9 10AE5>E6 10AE6>DC 10D24=10D27>E6 10D69=10D6D>E6 10EAB=10EAC>E6
  10EFA=10EFB>DC 10EFC 10EFD=10EFF>DC 10F46=10F47>DC 10F48=10F4A>E6 10F4B>DC 10F4C>E6
  10F4D=10F50>DC 10F82>E6 10F83>DC 10F84>E6 10F85>DC 11001 11038=11045 11046>9 11070>9
  11073=11074 1107F>9 11080=11081 110B3=110B6 110B9>9 110BA>7 110C2 11100=11102>E6 11127=1112B
  1112D=11132 11133=11134>9 11173>7 11180=11181 111B6=111BE 111C9 111CA>7 111CB=111CC 111CF
  1122F=11231 11234 11236>7 11237 1123E 11241 112DF 112E3=112E8 112E9>7 112EA>9 11300=11301
  1133B=1133C>7 11340 11366=11374>E6 113BB=113C0 113CE>9 113D0>9 113D2 113E1=113E2 11438=1143F
  11442>9 11443=11444 11446>7 1145E>E6 114B3=114B8 114BA 114BF=114C0 114C2>9 114C3>7 115B2=115B5
  115BC=115BD 115BF>9 115C0>7 115DC=115DD 11633=1163A 1163D 1163F>9 11640 116AB 116AD 116B0=116B5
  116B7>7 1171D 1171F 11722=11725 11727=1172A 1172B>9 1182F=11837 11839>9 1183A>7 1193B=1193C
  1193E>9 11943>7 119D4=119DB 119E0>9 11A01=11A06 11A09=11A0A 11A33 11A34>9 11A35=11A38
  11A3B=11A3E 11A47>9 11A51=11A56 11A59=11A5B 11A8A=11A96 11A98 11A99>9 11B60 11B62=11B64 11B66
  11C30=11C3D 11C92=11CA7 11CAA=11CB0 11CB2=11CB3 11CB5=11CB6 11D31=11D41 11D42>7 11D43
  11D44=11D45>9 11D47 11D90=11D91 11D95 11D97>9 11EF3=11EF4 11F00=11F01 11F36=11F3A 11F40 11F42>9
  11F5A 13440 13447=13455 1611E=16129 1612D=1612E 1612F>9 16AF0=16AF4>1 16B30=16B36>E6 16F4F
  16F8F=16F92 16FE4 1BC9D 1BC9E>1 1CF00=1CF46 1D167=1D169>1 1D17B=1D182>DC 1D185=1D189>E6
  1D18A=1D18B>DC 1D1AA=1D1AD>E6 1D242=1D244>E6 1DA00=1DA36 1DA3B=1DA6C 1DA75 1DA84 1DA9B=1DAAF
  1E000=1E08F>E6 1E130=1E136>E6 1E2AE>E6 1E2EC=1E2EF>E6 1E4EC=1E4ED>E8 1E4EE>DC 1E4EF>E6 1E5EE>E6
  1E5EF>DC 1E6E3>E6 1E6E6>E6 1E6EE=1E6EF>E6 1E6F5>E6 1E8D0=1E8D6>DC 1E944=1E949>E6 1E94A>7"

/-- Marks with a width of their own, with their classes. -/
def spacingTable : List Entry := Entry.ofText "
  903 93B 93E=940 949=94C 94E=94F 982=983 9BE=9C0 9C7=9CC 9D7 A03 A3E=A40 A83 ABE=AC0 AC9=ACC
  B02=B03 B3E B40 B47=B4C B57 BBE=BBF BC1=BCC BD7 C01=C03 C41=C44 C82=C83 CBE=CCB CD5=CD6 CF3
  D02=D03 D3E=D40 D46=D4C D57 D82=D83 DCF=DD1 DD8=DDF DF2=DF3 F3E=F3F F7F 102B=102C 1031 1038
  103B=103C 1056=1057 1062=1064 1067=106D 1083=1084 1087=108C 108F 109A=109C 1715>9 1734>9 17B6
  17BE=17C5 17C7=17C8 1923=1926 1929=1931 1933=1938 1A19=1A1A 1A55 1A57 1A61 1A63=1A64 1A6D=1A72
  1B04 1B35 1B3B 1B3D=1B41 1B43 1B44>9 1B82 1BA1 1BA6=1BA7 1BAA>9 1BE7 1BEA=1BEC 1BEE 1BF2=1BF3>9
  1C24=1C2B 1C34=1C35 1CE1 1CF7 302E=302F>E0 A823=A824 A827 A880=A881 A8B4=A8C3 A952 A953>9 A983
  A9B4=A9B5 A9BA=A9BB A9BE=A9BF A9C0>9 AA2F=AA30 AA33=AA34 AA4D AA7B AA7D AAEB AAEE=AAEF AAF5
  ABE3=ABE4 ABE6=ABE7 ABE9=ABEA ABEC 11000 11002 11082 110B0=110B2 110B7=110B8 1112C 11145=11146
  11182 111B3=111B5 111BF 111C0>9 111CE 1122C=1122E 11232=11233 11235>9 112E0=112E2 11302=11303
  1133E=1133F 11341=1134C 1134D>9 11357 11362=11363 113B8=113BA 113C2=113CD 113CF>9 11435=11437
  11440=11441 11445 114B0=114B2 114B9 114BB=114BE 114C1 115AF=115B1 115B8=115BB 115BE 11630=11632
  1163B=1163C 1163E 116AC 116AE=116AF 116B6>9 1171E 11720=11721 11726 1182C=1182E 11838
  11930=11938 1193D>9 11940 11942 119D1=119D3 119DC=119DF 119E4 11A07=11A08 11A39 11A57=11A58
  11A97 11B61 11B65 11B67 11C2F 11C3E 11C3F>9 11CA9 11CB1 11CB4 11D8A=11D8E 11D93=11D94 11D96
  11EF5=11EF6 11F03 11F34=11F35 11F3E=11F3F 11F41>9 1612A=1612C 16F51=16F87 16FF0=16FF1>6
  1D165=1D166>D8 1D16D>E2 1D16E=1D172>D8"

/-- Whether a character is a mark without a width of its own. -/
def isCovering (c : Char) : Bool := Entry.has coveringTable c

/-- Whether a character is a mark. -/
def isMark (c : Char) : Bool := isCovering c || Entry.has spacingTable c

/-- The class of a mark. Characters of class 0 stay where they are. -/
def markClass (c : Char) : Nat :=
  let numbers := (Entry.find? coveringTable c).orElse fun () => Entry.find? spacingTable c
  (numbers.bind List.head?).getD 0

/-- No mark has a smaller number. -/
def firstMark : Nat := 0x300

/-- The class of the signs that take the vowel from a consonant. -/
def vowelKillerClass : Nat := 9

end Whitelist.Host
