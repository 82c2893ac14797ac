import Swarm.Text.CodeTable

/-!
Marks: the characters that combine with the one in front of them.
-/

namespace Swarm.Text

/-- Where marks begin, `M`, and end, `-`. -/
def markText : String :=
  "0=- 300=M 370=- 483=M 48a=- 591=M 5be=- 5bf=M 5c0=- 5c1=M 5c3=- 5c4=M 5c6=- 5c7=M 5c8=- 610=M
61b=- 64b=M 660=- 670=M 671=- 6d6=M 6dd=- 6df=M 6e5=- 6e7=M 6e9=- 6ea=M 6ee=- 711=M 712=- 730=M
74b=- 7a6=M 7b1=- 7eb=M 7f4=- 7fd=M 7fe=- 816=M 81a=- 81b=M 824=- 825=M 828=- 829=M 82e=- 859=M
85c=- 897=M 8a0=- 8ca=M 8e2=- 8e3=M 904=- 93a=M 93d=- 93e=M 950=- 951=M 958=- 962=M 964=- 981=M
984=- 9bc=M 9bd=- 9be=M 9c5=- 9c7=M 9c9=- 9cb=M 9ce=- 9d7=M 9d8=- 9e2=M 9e4=- 9fe=M 9ff=- a01=M
a04=- a3c=M a3d=- a3e=M a43=- a47=M a49=- a4b=M a4e=- a51=M a52=- a70=M a72=- a75=M a76=- a81=M
a84=- abc=M abd=- abe=M ac6=- ac7=M aca=- acb=M ace=- ae2=M ae4=- afa=M b00=- b01=M b04=- b3c=M
b3d=- b3e=M b45=- b47=M b49=- b4b=M b4e=- b55=M b58=- b62=M b64=- b82=M b83=- bbe=M bc3=- bc6=M
bc9=- bca=M bce=- bd7=M bd8=- c00=M c05=- c3c=M c3d=- c3e=M c45=- c46=M c49=- c4a=M c4e=- c55=M
c57=- c62=M c64=- c81=M c84=- cbc=M cbd=- cbe=M cc5=- cc6=M cc9=- cca=M cce=- cd5=M cd7=- ce2=M
ce4=- cf3=M cf4=- d00=M d04=- d3b=M d3d=- d3e=M d45=- d46=M d49=- d4a=M d4e=- d57=M d58=- d62=M
d64=- d81=M d84=- dca=M dcb=- dcf=M dd5=- dd6=M dd7=- dd8=M de0=- df2=M df4=- e31=M e32=- e34=M
e3b=- e47=M e4f=- eb1=M eb2=- eb4=M ebd=- ec8=M ecf=- f18=M f1a=- f35=M f36=- f37=M f38=- f39=M
f3a=- f3e=M f40=- f71=M f85=- f86=M f88=- f8d=M f98=- f99=M fbd=- fc6=M fc7=- 102b=M 103f=- 1056=M
105a=- 105e=M 1061=- 1062=M 1065=- 1067=M 106e=- 1071=M 1075=- 1082=M 108e=- 108f=M 1090=- 109a=M
109e=- 135d=M 1360=- 1712=M 1716=- 1732=M 1735=- 1752=M 1754=- 1772=M 1774=- 17b4=M 17d4=- 17dd=M
17de=- 180b=M 180e=- 180f=M 1810=- 1885=M 1887=- 18a9=M 18aa=- 1920=M 192c=- 1930=M 193c=- 1a17=M
1a1c=- 1a55=M 1a5f=- 1a60=M 1a7d=- 1a7f=M 1a80=- 1ab0=M 1ade=- 1ae0=M 1aec=- 1b00=M 1b05=- 1b34=M
1b45=- 1b6b=M 1b74=- 1b80=M 1b83=- 1ba1=M 1bae=- 1be6=M 1bf4=- 1c24=M 1c38=- 1cd0=M 1cd3=- 1cd4=M
1ce9=- 1ced=M 1cee=- 1cf4=M 1cf5=- 1cf7=M 1cfa=- 1dc0=M 1e00=- 20d0=M 20f1=- 2cef=M 2cf2=- 2d7f=M
2d80=- 2de0=M 2e00=- 302a=M 3030=- 3099=M 309b=- a66f=M a673=- a674=M a67e=- a69e=M a6a0=- a6f0=M
a6f2=- a802=M a803=- a806=M a807=- a80b=M a80c=- a823=M a828=- a82c=M a82d=- a880=M a882=- a8b4=M
a8c6=- a8e0=M a8f2=- a8ff=M a900=- a926=M a92e=- a947=M a954=- a980=M a984=- a9b3=M a9c1=- a9e5=M
a9e6=- aa29=M aa37=- aa43=M aa44=- aa4c=M aa4e=- aa7b=M aa7e=- aab0=M aab1=- aab2=M aab5=- aab7=M
aab9=- aabe=M aac0=- aac1=M aac2=- aaeb=M aaf0=- aaf5=M aaf7=- abe3=M abeb=- abec=M abee=- fb1e=M
fb1f=- fe00=M fe10=- fe20=M fe30=- 101fd=M 101fe=- 102e0=M 102e1=- 10376=M 1037b=- 10a01=M 10a04=-
10a05=M 10a07=- 10a0c=M 10a10=- 10a38=M 10a3b=- 10a3f=M 10a40=- 10ae5=M 10ae7=- 10d24=M 10d28=-
10d69=M 10d6e=- 10eab=M 10ead=- 10efa=M 10f00=- 10f46=M 10f51=- 10f82=M 10f86=- 11000=M 11003=-
11038=M 11047=- 11070=M 11071=- 11073=M 11075=- 1107f=M 11083=- 110b0=M 110bb=- 110c2=M 110c3=-
11100=M 11103=- 11127=M 11135=- 11145=M 11147=- 11173=M 11174=- 11180=M 11183=- 111b3=M 111c1=-
111c9=M 111cd=- 111ce=M 111d0=- 1122c=M 11238=- 1123e=M 1123f=- 11241=M 11242=- 112df=M 112eb=-
11300=M 11304=- 1133b=M 1133d=- 1133e=M 11345=- 11347=M 11349=- 1134b=M 1134e=- 11357=M 11358=-
11362=M 11364=- 11366=M 1136d=- 11370=M 11375=- 113b8=M 113c1=- 113c2=M 113c3=- 113c5=M 113c6=-
113c7=M 113cb=- 113cc=M 113d1=- 113d2=M 113d3=- 113e1=M 113e3=- 11435=M 11447=- 1145e=M 1145f=-
114b0=M 114c4=- 115af=M 115b6=- 115b8=M 115c1=- 115dc=M 115de=- 11630=M 11641=- 116ab=M 116b8=-
1171d=M 1172c=- 1182c=M 1183b=- 11930=M 11936=- 11937=M 11939=- 1193b=M 1193f=- 11940=M 11941=-
11942=M 11944=- 119d1=M 119d8=- 119da=M 119e1=- 119e4=M 119e5=- 11a01=M 11a0b=- 11a33=M 11a3a=-
11a3b=M 11a3f=- 11a47=M 11a48=- 11a51=M 11a5c=- 11a8a=M 11a9a=- 11b60=M 11b68=- 11c2f=M 11c37=-
11c38=M 11c40=- 11c92=M 11ca8=- 11ca9=M 11cb7=- 11d31=M 11d37=- 11d3a=M 11d3b=- 11d3c=M 11d3e=-
11d3f=M 11d46=- 11d47=M 11d48=- 11d8a=M 11d8f=- 11d90=M 11d92=- 11d93=M 11d98=- 11ef3=M 11ef7=-
11f00=M 11f02=- 11f03=M 11f04=- 11f34=M 11f3b=- 11f3e=M 11f43=- 11f5a=M 11f5b=- 13440=M 13441=-
13447=M 13456=- 1611e=M 16130=- 16af0=M 16af5=- 16b30=M 16b37=- 16f4f=M 16f50=- 16f51=M 16f88=-
16f8f=M 16f93=- 16fe4=M 16fe5=- 16ff0=M 16ff2=- 1bc9d=M 1bc9f=- 1cf00=M 1cf2e=- 1cf30=M 1cf47=-
1d165=M 1d16a=- 1d16d=M 1d173=- 1d17b=M 1d183=- 1d185=M 1d18c=- 1d1aa=M 1d1ae=- 1d242=M 1d245=-
1da00=M 1da37=- 1da3b=M 1da6d=- 1da75=M 1da76=- 1da84=M 1da85=- 1da9b=M 1daa0=- 1daa1=M 1dab0=-
1e000=M 1e007=- 1e008=M 1e019=- 1e01b=M 1e022=- 1e023=M 1e025=- 1e026=M 1e02b=- 1e08f=M 1e090=-
1e130=M 1e137=- 1e2ae=M 1e2af=- 1e2ec=M 1e2f0=- 1e4ec=M 1e4f0=- 1e5ee=M 1e5f0=- 1e6e3=M 1e6e4=-
1e6e6=M 1e6e7=- 1e6ee=M 1e6f0=- 1e6f5=M 1e6f6=- 1e8d0=M 1e8d7=- 1e944=M 1e94b=- e0100=M e01f0=-"

def marks : CodeTable Bool := CodeTable.ofText (· == ['M']) markText

def isMark (c : Char) : Bool := 0x80 ≤ c.toNat && (marks.value? c.toNat).getD false

end Swarm.Text
